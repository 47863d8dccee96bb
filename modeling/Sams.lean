import Sams.Authz
import Sams.Lib.Programs
import Sams.Lib.Rows
import Sams.Lib.Interleaving
import Sams.School.ActiveYear
import Sams.School.ClosedYears
import Sams.School.Coverage
import Sams.School.Lifecycle
import Sams.School.History
import Sams.School.Applied
import Sams.School.Atomic
import Sams.School.Landing
import Sams.School.Ladder
import Sams.School.Lines
import Sams.School.Writes
import Sams.School.Targets
import Sams.School.Overrides
import Sams.School.Archive
import Sams.School.Agreement
import Sams.School.Deletions
import Sams.School.Cascades
import Sams.School.Payments
import Sams.School.Labels
import Sams.School.Entries
import Sams.Trips.Workflow
import Sams.Trips.Overlaps
import Sams.Trips.Publishing
import Sams.Trips.Actions
import Sams.Trips.Paying
import Sams.Trips.Approvals
import Sams.Trips.Subsidies
import Sams.Lib.Twins
import Sams.Trips.Listing
import Sams.Trips.Twins
import Sams.Trips.Privacy
import Sams.Trips.Leaks
import Sams.Trips.Disclosure
import Sams.Trips.Authority
import Sams.Trips.Announcements
import Sams.Trips.Enrolling
import Sams.Trips.Consent
import Sams.Lib.Taking
import Sams.Auth.Repository
import Sams.Auth.Login
import Sams.Auth.Actions
import Sams.Auth.Growth
import Sams.Auth.Rotation
import Sams.Auth.Families
import Sams.Auth.Candidates
import Sams.Auth.LoginSchool
import Sams.Auth.Claims
import Sams.Auth.CurrentUser
import Sams.Auth.Joining
import Sams.Auth.Defaults
import Sams.Auth.Lifecycle
import Sams.Auth.Outcome
import Sams.Auth.HomeSchool
import Sams.Auth.Arrivals
import Sams.Auth.Selection
import Sams.Auth.Emails
import Sams.Auth.Suspension
import Sams.Auth.DeadInvitations
import Sams.Auth.Switching
import Sams.Auth.Demotion
import Sams.Auth.Policy
import Sams.Lib.Parts
import Sams.Setup.Profile
import Sams.Setup.Onboarding
import Sams.Setup.Curriculum
import Sams.Setup.Readiness
import Sams.Setup.Currency
import Sams.Trips.Custody
import Sams.Trips.Opening
import Sams.Trips.Entitled
import Sams.Trips.Priced
import Sams.Trips.Mappings
import Sams.Trips.Listed
import Sams.School.Preview
import Sams.School.Deactivated
import Sams.Auth.Challenges
import Sams.Auth.Gates
import Sams.Audit.Log
import Sams.Family.Overview
import Sams.School.Reimport
import Sams.Family.Sight
import Sams.Family.Isolation
import Sams.Family.Facts
import Sams.Health.Records
import Sams.Health.Shown
import Sams.Lib.Leftmost
import Sams.School.Backfill
import Sams.Setup.Initialise
import Sams.Auth.Registration
import Sams.Auth.Roles
import Sams.Auth.Operator
import Sams.Costs.Lines
import Sams.Trips.Audience
import Sams.Trips.Reopening
import Sams.Costs.Replacing
import Sams.Costs.Totals
import Sams.Costs.Currencies
import Sams.School.Blackouts
import Sams.School.FileOrder
import Sams.Lib.Dicts
import Sams.School.ImportFiles
import Sams.Auth.InviteCodes
import Sams.Lib.Csv
import Sams.Lib.Groups
import Sams.Reports.School
import Sams.Lib.Locks
import Sams.Platform.Pools
import Sams.Identities.Migrations
import Sams.Reports.Platform
import Sams.Identities.Restart
import Sams.Identities.Upgraded
import Sams.Identities.Review
import Sams.Identities.Downgraded
import Sams.Keycloak.Organizations
import Sams.Keycloak.Provisioning
import Sams.Lib.Unions
import Sams.Trips.Rosters
import Sams.Trips.Leftover
import Sams.Lib.LastWrites
import Sams.Family.Linking
import Sams.Auth.Precheck
import Sams.Lib.Sessions
import Sams.Keycloak.Accounts
import Sams.Keycloak.Members
