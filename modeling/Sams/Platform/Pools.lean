import Mathlib.Data.List.Basic
import Sams.Lib.Locks
import Sams.Text

/-!
# The connection pools

One process serves every school, and opens the pool of a school when it is first asked for. The call
that opens a pool holds its lock, and inside it the lock of the control plane's pool, which it may
have to open first; other calls wait for the lock, or find the pool.

Calls interleave: each of them stops where it awaits something, and may raise there, whatever the
reason; it then gives back its locks. The steps here are smaller than those of the event loop, which
lets a call go on until it awaits again.

* **`one_pool`**: whatever the order of the steps, no pool is opened twice for one tenant, and every
  call gets the pool of its own.
* **`pools_open`**: from wherever the calls have come to, they can all come to their end.
-/

namespace Sams.Platform

open Locks Runs

/-! ## The manager -/

/-- Whose pool it is. -/
inductive Key where
  | controlPlane
  | tenant (tenantId : String)
  deriving DecidableEq, Repr

/-- `schema_name`, which is the id of the tenant as it stands. -/
def Key.schemaName : Key → Option String
  | controlPlane => none
  | tenant tenantId => some tenantId

/-- `f'"{self._schema_name}", public'`, where there is a name. The id is not escaped. -/
def searchPath (schemaName : Option String) : Option String :=
  (Text.nonEmpty schemaName).map fun s => "\"" ++ s ++ "\", public"

/-- A name in double quotes up to the closing one, as the database reads it: two of
them stand for one. -/
def unquote : List Char → List Char
  | [] => []
  | c :: cs =>
    if c = Text.doubleQuote then
      match cs with
      | [] => []
      | d :: ds => if d = Text.doubleQuote then Text.doubleQuote :: unquote ds else []
    else c :: unquote cs

/-- The database cuts a name to so many bytes. -/
def clip : Nat → List Char → List Char
  | _, [] => []
  | n, c :: cs => if c.utf8Size ≤ n then c :: clip (n - c.utf8Size) cs else []

/-- The schema that a search path names first. -/
def firstSchema (path : String) : Option String :=
  match path.toList with
  | [] => none
  | c :: cs => if c = Text.doubleQuote then some (String.ofList (clip 63 (unquote cs))) else none

structure Login where
  user : String
  password : String
  deriving DecidableEq, Repr

/-- `CONTROL_PLANE_DB_CONFIG`, `TENANT_DB_CONFIG`, and the login of a tenant that neither knows. -/
structure Config where
  controlPlane : Login
  tenants : String → Option Login
  default : Login

inductive Initialisation where
  | running
  | done
  | failed
  deriving DecidableEq, Repr

/-- A pool of `asyncpg`, and how far the tables of its schema are. -/
structure Pool where
  login : Login
  searchPath : Option String
  tables : Initialisation
  deriving DecidableEq, Repr

/-- `Database`; the pool is one of those that have been created. -/
structure Database where
  login : Login
  schemaName : Option String
  pool : Option Nat
  deriving DecidableEq, Repr

/-- `DatabaseManager`, with the rows of `tenants` and the schemas that there are. -/
structure Manager where
  databases : Key → Option Database
  locks : Locks.Table Key Nat
  pools : List Pool
  tenants : List (String × Login)
  schemas : List String

namespace Manager

def pool? (m : Manager) (key : Key) : Option Nat := (m.databases key).bind Database.pool

/-- A `Database` that is not connected yet. -/
def place (m : Manager) (key : Key) (login : Login) : Manager :=
  { m with databases := Function.update m.databases key (some ⟨login, key.schemaName, none⟩) }

/-- `self.pool = await asyncpg.create_pool(...)`. -/
def createPool (m : Manager) (key : Key) : Manager :=
  match m.databases key with
  | none => m
  | some d =>
    { m with
      databases := Function.update m.databases key (some { d with pool := some m.pools.length })
      pools := m.pools ++ [⟨d.login, searchPath d.schemaName, .running⟩] }

/-- `init_fn` has ended. -/
def settle (m : Manager) (key : Key) (tables : Initialisation) : Manager :=
  match m.pool? key with
  | none => m
  | some p => { m with pools := m.pools.modify p fun pool => { pool with tables := tables } }

/-- `INSERT INTO tenants ... ON CONFLICT (tenant_id) DO NOTHING`. -/
def register (m : Manager) (tenantId : String) (login : Login) : Manager :=
  { m with tenants := if tenantId ∈ m.tenants.map Prod.fst then m.tenants
    else m.tenants ++ [(tenantId, login)] }

/-- `CREATE SCHEMA IF NOT EXISTS "{schema_name}"`. -/
def ensureSchema (m : Manager) (tenantId : String) : Manager :=
  { m with
    schemas := (firstSchema ("\"" ++ tenantId ++ "\"")).elim m.schemas fun name =>
      if name ∈ m.schemas then m.schemas else m.schemas ++ [name] }

end Manager

/-! ## A call -/

/-- Where `get_pool` or `get_control_plane_pool` stands, with the login it has found. -/
inductive Stage where
  | called
  | queued
  | locked
  | discovering
  | registering
  | ensuringDatabase (login : Login)
  | ensuringSchema (login : Login)
  | connecting
  | creating
  | initialising
  deriving DecidableEq, Repr

/-- A call is at a pool: its own, or the control plane's that it needs. -/
inductive Position where
  | within (key : Key) (stage : Stage)
  | returned (pool : Nat)
  | raised (key : Key) (stage : Stage)
  deriving DecidableEq, Repr

structure Call where
  target : Key
  position : Position
  deriving DecidableEq, Repr

/-- How it goes on. `_ensure_database_exists` and `_ensure_schema_exists` catch
their errors and warn. -/
inductive Outcome where
  | done
  | warned
  | raised
  deriving DecidableEq, Repr

/-- The pool is returned to the caller, which is `get_pool` where it was for the
control plane's rows. -/
def give (target key : Key) (pool : Nat) : Position :=
  if key = target then .returned pool else .within target .discovering

/-- One step of the call `i`. -/
def proceed (cfg : Config) (i : Nat) (target key : Key) (outcome : Outcome) (m : Manager) :
    Stage → Manager × Position
  | .called =>
    match m.pool? key with
    | some pool => (m, give target key pool)
    | none => (m, .within key .queued)
  | .queued =>
    if m.locks key = none then ({ m with locks := take m.locks key i }, .within key .locked)
      else (m, .within key .queued)
  | .locked =>
    match m.databases key, key with
    | some _, _ => (m, .within key .connecting)
    | none, .controlPlane => (m, .within key (.ensuringDatabase cfg.controlPlane))
    | none, .tenant _ => (m, .within .controlPlane .called)
  | .discovering =>
    match key with
    | .controlPlane => (m, .within key .discovering)
    | .tenant tenantId =>
      match (m.tenants.lookup tenantId).or (cfg.tenants tenantId) with
      | some login => (m, .within key (.ensuringDatabase login))
      | none => (m, .within key .registering)
  | .registering =>
    match key with
    | .controlPlane => (m, .within key .registering)
    | .tenant tenantId =>
      (m.register tenantId cfg.default, .within key (.ensuringDatabase cfg.default))
  | .ensuringDatabase login =>
    match key with
    | .controlPlane => (m.place key login, .within key .connecting)
    | .tenant _ => (m, .within key (.ensuringSchema login))
  | .ensuringSchema login =>
    match key with
    | .controlPlane => (m, .within key (.ensuringSchema login))
    | .tenant tenantId =>
      ((if outcome = .done then m.ensureSchema tenantId else m).place key login,
        .within key .connecting)
  | .connecting =>
    match m.pool? key with
    | some pool => ({ m with locks := free m.locks key }, give target key pool)
    | none => (m, .within key .creating)
  | .creating => (m.createPool key, .within key .initialising)
  | .initialising =>
    match m.pool? key with
    | some pool => ({ m.settle key .done with locks := free m.locks key }, give target key pool)
    | none => (m, .within key .initialising)

/-- What is awaited raises, or the call is cancelled. A pool that was created stays. -/
def abandon (i : Nat) (key : Key) (m : Manager) (stage : Stage) : Manager × Position :=
  ({ (if stage = .initialising then m.settle key .failed else m) with
    locks := leave m.locks i }, .raised key stage)

def act (cfg : Config) (i : Nat) (target key : Key) (stage : Stage) (outcome : Outcome)
    (m : Manager) :
    Manager × Position :=
  if outcome = .raised then abandon i key m stage else proceed cfg i target key outcome m stage

/-! ## All calls -/

structure State where
  manager : Manager
  calls : List Call

/-- A new call, a step of a call, or a write to `tenants` from elsewhere. -/
inductive Turn where
  | call (key : Key)
  | go (i : Nat) (outcome : Outcome)
  | write (tenants : List (String × Login))
  deriving DecidableEq, Repr

/-- A call that has ended does nothing any more. -/
def State.go (cfg : Config) (s : State) (i : Nat) (outcome : Outcome) : State :=
  match s.calls[i]? with
  | some ⟨target, .within key stage⟩ =>
    { manager := (act cfg i target key stage outcome s.manager).1
      calls := s.calls.set i ⟨target, (act cfg i target key stage outcome s.manager).2⟩ }
  | _ => s

def step (cfg : Config) (s : State) : Turn → State
  | .call key => { s with calls := s.calls ++ [⟨key, .within key .called⟩] }
  | .go i outcome => s.go cfg i outcome
  | .write tenants => { s with manager := { s.manager with tenants := tenants } }

/-- The process at its start. -/
def fresh (tenants : List (String × Login)) (schemas : List String) : State where
  manager := { databases := fun _ => none, locks := fun _ => none, pools := [], tenants, schemas }
  calls := []

/-! ## What a call holds and knows -/

/-- Between `async with lock` and its end. -/
def Stage.inside : Stage → Bool
  | called | queued => false
  | _ => true

/-- Opening the control plane's pool, `get_pool` keeps the lock of its own. -/
def Call.Holds (c : Call) (k : Key) : Prop :=
  match c.position with
  | .within key stage => k = key ∧ stage.inside ∨ k = c.target ∧ key ≠ c.target
  | _ => False

def Call.Waits (c : Call) (k : Key) : Prop := c.position = .within k .queued

def Stage.Sound (m : Manager) (key : Key) : Stage → Prop
  | called | queued | locked => True
  | discovering | registering | ensuringSchema _ => key ≠ .controlPlane ∧ m.databases key = none
  | ensuringDatabase _ => m.databases key = none
  | connecting => ∃ d, m.databases key = some d
  | creating => ∃ d, m.databases key = some d ∧ d.pool = none
  | initialising =>
    ∃ p pool, m.pool? key = some p ∧ m.pools[p]? = some pool ∧ pool.tables = .running

def Position.Sound (m : Manager) (target : Key) : Position → Prop
  | .within key stage =>
    (key ≠ target → key = .controlPlane ∧ m.databases target = none) ∧ stage.Sound m key
  | .returned p => m.pool? target = some p
  | .raised .. => True

/-! ## What a step does to the pools -/

namespace Manager

variable {m : Manager} {key : Key}

theorem pool?_of_databases {m m' : Manager} (h : m'.databases = m.databases) :
    m'.pool? = m.pool? := by
  funext k
  unfold pool?
  rw [h]

theorem place_self (m : Manager) (key : Key) (login : Login) :
    (m.place key login).databases key = some ⟨login, key.schemaName, none⟩ :=
  Function.update_self _ _ _

theorem place_of_ne (m : Manager) {k : Key} (hk : k ≠ key) (login : Login) :
    (m.place key login).databases k = m.databases k := Function.update_of_ne hk _ _

theorem pool?_place (h : m.databases key = none) (login : Login) :
    (m.place key login).pool? = m.pool? := by
  funext k
  unfold pool?
  by_cases hk : k = key
  · subst hk
    rw [place_self, h]
    rfl
  · rw [place_of_ne m hk]

section Created

variable {d : Database} (h : m.databases key = some d)

include h

theorem createPool_self :
    (m.createPool key).databases key = some { d with pool := some m.pools.length } := by
  unfold createPool
  rw [h]
  exact Function.update_self _ _ _

theorem createPool_of_ne {k : Key} (hk : k ≠ key) :
    (m.createPool key).databases k = m.databases k := by
  unfold createPool
  rw [h]
  exact Function.update_of_ne hk _ _

theorem createPool_pools :
    (m.createPool key).pools = m.pools ++ [⟨d.login, searchPath d.schemaName, .running⟩] := by
  unfold createPool
  rw [h]

theorem pool?_createPool_self : (m.createPool key).pool? key = some m.pools.length := by
  unfold pool?
  rw [createPool_self h]
  rfl

theorem pool?_createPool_of_ne {k : Key} (hk : k ≠ key) :
    (m.createPool key).pool? k = m.pool? k := by
  unfold pool?
  rw [createPool_of_ne h hk]

end Created

section Settled

variable {p : Nat} (h : m.pool? key = some p) (tables : Initialisation)

theorem settle_databases (m : Manager) (key : Key) (tables : Initialisation) :
    (m.settle key tables).databases = m.databases := by
  unfold settle
  cases m.pool? key <;> rfl

theorem pool?_settle (m : Manager) (key : Key) (tables : Initialisation) :
    (m.settle key tables).pool? = m.pool? := by
  funext k
  unfold pool?
  rw [settle_databases]

include h

theorem settle_pools :
    (m.settle key tables).pools = m.pools.modify p fun pool => { pool with tables := tables } := by
  unfold settle
  rw [h]

theorem settle_pool {pool : Pool} (hpool : m.pools[p]? = some pool) :
    (m.settle key tables).pools[p]? = some { pool with tables := tables } := by
  rw [settle_pools h, List.getElem?_modify_eq, hpool]
  rfl

theorem settle_pool_of_ne {q : Nat} (hq : p ≠ q) :
    (m.settle key tables).pools[q]? = m.pools[q]? := by
  rw [settle_pools h, List.getElem?_modify_ne _ _ hq]

end Settled

/-- What is open is open for the schema of its key, and is the pool of that key alone. -/
structure Ok (m : Manager) : Prop where
  schema : ∀ k d, m.databases k = some d → d.schemaName = k.schemaName
  known : ∀ k p, m.pool? k = some p →
    ∃ pool, m.pools[p]? = some pool ∧ pool.searchPath = searchPath k.schemaName
  opened : ∀ p pool, m.pools[p]? = some pool → ∃ k, m.pool? k = some p
  apart : ∀ k l p, m.pool? k = some p → m.pool? l = some p → k = l

theorem Ok.congr {m' : Manager} (h : m.Ok) (hdatabases : m'.databases = m.databases)
    (hpools : m'.pools = m.pools) :
    m'.Ok where
  schema k d hd := h.schema k d (hdatabases ▸ hd)
  known k p hp := by
    rw [hpools]
    exact h.known k p (pool?_of_databases hdatabases ▸ hp)
  opened p pool hp := by
    rw [pool?_of_databases hdatabases]
    exact h.opened p pool (hpools ▸ hp)
  apart k l p hk hl := by
    rw [pool?_of_databases hdatabases] at hk hl
    exact h.apart k l p hk hl

end Manager

/-- What a step of a call at `stage` does to the databases and the pools. -/
inductive Did (m : Manager) (key : Key) : Stage → Manager → Prop where
  | nothing (stage : Stage) : Did m key stage m
  | placed {stage : Stage} (login : Login) (hin : stage.inside) (h : m.databases key = none) :
      Did m key stage (m.place key login)
  | created {d : Database} (h : m.databases key = some d) (hpool : d.pool = none) :
      Did m key .creating (m.createPool key)
  | settled {p : Nat} {pool : Pool} (tables : Initialisation) (h : m.pool? key = some p)
      (hpool : m.pools[p]? = some pool) : Did m key .initialising (m.settle key tables)

/-- Only what belongs to a key of `mine` is changed, and no pool is lost. -/
structure Frame (mine : Key → Prop) (m m' : Manager) : Prop where
  databases : ∀ k, ¬mine k → m'.databases k = m.databases k
  pools : ∀ k p, m.pool? k = some p → m'.pool? k = some p
  pool : ∀ k p, ¬mine k → m.pool? k = some p → m'.pools[p]? = m.pools[p]?

section Changes

variable {m n : Manager} {key : Key} {stage : Stage}

theorem Did.frame (hok : m.Ok) (h : Did m key stage n) :
    Frame (fun k => k = key ∧ stage.inside) m n := by
  cases h with
  | nothing => exact ⟨fun _ _ => rfl, fun _ _ hp => hp, fun _ _ _ _ => rfl⟩
  | placed login hin hnone =>
    refine ⟨fun k hk => ?_, fun k p hp => ?_, fun _ _ _ _ => rfl⟩
    · exact Function.update_of_ne (fun hkey => hk ⟨hkey, hin⟩) _ _
    · rwa [Manager.pool?_place hnone]
  | @created d hd hpool =>
    have hkey : m.pool? key = none := by
      unfold Manager.pool?
      rw [hd]
      exact hpool
    refine ⟨fun k hk => ?_, fun k p hp => ?_, fun k p hk hp => ?_⟩
    · exact Manager.createPool_of_ne hd fun h => hk ⟨h, rfl⟩
    · have hne : k ≠ key := by
        rintro rfl
        rw [hkey] at hp
        cases hp
      rwa [Manager.pool?_createPool_of_ne hd hne]
    · obtain ⟨pool, hp, -⟩ := hok.known k p hp
      have hlt : p < m.pools.length := (List.getElem?_eq_some_iff.1 hp).1
      rw [Manager.createPool_pools hd, List.getElem?_append_left hlt]
  | @settled p pool tables hp hpool =>
    refine ⟨fun k _ => ?_, fun k q hq => ?_, fun k q hk hq => ?_⟩
    · rw [Manager.settle_databases]
    · rwa [Manager.pool?_settle]
    · refine Manager.settle_pool_of_ne hp tables ?_
      rintro rfl
      exact hk ⟨hok.apart k key p hq hp, rfl⟩

theorem Did.ok (hok : m.Ok) (h : Did m key stage n) : n.Ok := by
  cases h with
  | nothing => exact hok
  | placed login hin hnone =>
    have hsame := Manager.pool?_place hnone login
    refine ⟨fun k d hd => ?_, fun k p hp => hok.known k p (hsame ▸ hp), fun p pool hp => ?_,
      fun k l p hk hl => hok.apart k l p (hsame ▸ hk) (hsame ▸ hl)⟩
    · by_cases hk : k = key
      · subst hk
        rw [Manager.place_self, Option.some.injEq] at hd
        rw [← hd]
      · rw [Manager.place_of_ne m hk] at hd
        exact hok.schema k d hd
    · rw [hsame]
      exact hok.opened p pool hp
  | @created d hd hpool =>
    have hframe := (Did.created hd hpool).frame hok
    have hfresh : ∀ k, m.pool? k ≠ some m.pools.length := by
      intro k hk
      obtain ⟨pool, hp, -⟩ := hok.known k _ hk
      exact absurd (List.getElem?_eq_some_iff.1 hp).1 (Nat.lt_irrefl _)
    have hkeys : ∀ k p, (m.createPool key).pool? k = some p →
        k = key ∧ p = m.pools.length ∨ k ≠ key ∧ m.pool? k = some p := by
      intro k p hp
      by_cases hk : k = key
      · subst hk
        rw [Manager.pool?_createPool_self hd, Option.some.injEq] at hp
        exact .inl ⟨rfl, hp.symm⟩
      · rw [Manager.pool?_createPool_of_ne hd hk] at hp
        exact .inr ⟨hk, hp⟩
    refine ⟨fun k e he => ?_, fun k p hp => ?_, fun p pool hp => ?_, fun k l p hk hl => ?_⟩
    · by_cases hk : k = key
      · subst hk
        rw [Manager.createPool_self hd, Option.some.injEq] at he
        rw [← he]
        exact hok.schema k d hd
      · rw [Manager.createPool_of_ne hd hk] at he
        exact hok.schema k e he
    · rcases hkeys k p hp with ⟨rfl, rfl⟩ | ⟨hk, hp⟩
      · rw [Manager.createPool_pools hd]
        exact ⟨_, List.getElem?_concat_length, congrArg searchPath (hok.schema k d hd)⟩
      · obtain ⟨pool, hpool, hpath⟩ := hok.known k p hp
        exact ⟨pool, (hframe.pool k p (fun h => hk h.1) hp).trans hpool, hpath⟩
    · rw [Manager.createPool_pools hd] at hp
      rcases Nat.lt_or_ge p m.pools.length with hlt | hge
      · rw [List.getElem?_append_left hlt] at hp
        obtain ⟨k, hk⟩ := hok.opened p pool hp
        exact ⟨k, hframe.pools k p hk⟩
      · have hlast : p = m.pools.length := by
          have hlt := (List.getElem?_eq_some_iff.1 hp).1
          rw [List.length_append, List.length_singleton] at hlt
          omega
        subst hlast
        exact ⟨key, Manager.pool?_createPool_self hd⟩
    · rcases hkeys k p hk with ⟨rfl, rfl⟩ | ⟨-, hk⟩
      · rcases hkeys l _ hl with ⟨rfl, -⟩ | ⟨-, hl⟩
        · rfl
        · exact absurd hl (hfresh l)
      · rcases hkeys l p hl with ⟨-, rfl⟩ | ⟨-, hl⟩
        · exact absurd hk (hfresh k)
        · exact hok.apart k l p hk hl
  | @settled p pool tables hp hpool =>
    refine ⟨fun k d hd => ?_, fun k q hq => ?_, fun q pool' hq => ?_, fun k l q hk hl => ?_⟩
    · rw [Manager.settle_databases] at hd
      exact hok.schema k d hd
    · rw [Manager.pool?_settle] at hq
      obtain ⟨pool', hpool', hpath⟩ := hok.known k q hq
      by_cases hpq : p = q
      · subst hpq
        exact ⟨_, Manager.settle_pool hp tables hpool', hpath⟩
      · exact ⟨pool', (Manager.settle_pool_of_ne hp tables hpq).trans hpool', hpath⟩
    · rw [Manager.pool?_settle]
      by_cases hpq : p = q
      · subst hpq
        exact ⟨key, hp⟩
      · rw [Manager.settle_pool_of_ne hp tables hpq] at hq
        exact hok.opened q pool' hq
    · rw [Manager.pool?_settle] at hk hl
      exact hok.apart k l q hk hl

end Changes

/-! ## What a step does -/

section Act

variable {cfg : Config} {i : Nat} {target key : Key} {stage : Stage} {outcome : Outcome}
    {m : Manager}

/-- A step changes the databases and the pools in one of these ways. -/
theorem act_did (cfg : Config) (i : Nat) (target : Key) (outcome : Outcome)
    (hs : stage.Sound m key) : ∃ n, Did m key stage n ∧
    (act cfg i target key stage outcome m).1.databases = n.databases ∧
      (act cfg i target key stage outcome m).1.pools = n.pools := by
  unfold act
  by_cases hraised : outcome = .raised
  · rw [if_pos hraised]
    unfold abandon
    by_cases hstage : stage = .initialising
    · subst hstage
      obtain ⟨p, pool, hp, hpool, -⟩ := hs
      exact ⟨_, .settled .failed hp hpool, rfl, rfl⟩
    · rw [if_neg hstage]
      exact ⟨m, .nothing stage, rfl, rfl⟩
  · rw [if_neg hraised]
    have hsame : ∃ n, Did m key stage n ∧ m.databases = n.databases ∧ m.pools = n.pools :=
      ⟨m, .nothing stage, rfl, rfl⟩
    cases stage with
    | called =>
      unfold proceed
      cases m.pool? key <;> exact hsame
    | queued =>
      unfold proceed
      by_cases hfree : m.locks key = none
      · rw [if_pos hfree]
        exact hsame
      · rw [if_neg hfree]
        exact hsame
    | locked =>
      unfold proceed
      cases m.databases key <;> cases key <;> exact hsame
    | discovering =>
      unfold proceed
      cases key with
      | controlPlane => exact hsame
      | tenant tenantId =>
        dsimp only
        cases (m.tenants.lookup tenantId).or (cfg.tenants tenantId) <;> exact hsame
    | registering => cases key <;> exact hsame
    | ensuringDatabase login =>
      cases key with
      | controlPlane => exact ⟨_, .placed login rfl hs, rfl, rfl⟩
      | tenant tenantId => exact hsame
    | ensuringSchema login =>
      cases key with
      | controlPlane => exact hsame
      | tenant tenantId =>
        refine ⟨_, .placed login rfl hs.2, ?_, ?_⟩
        · by_cases hdone : outcome = .done
          · simp [proceed, hdone, Manager.place, Manager.ensureSchema]
          · simp [proceed, hdone, Manager.place]
        · by_cases hdone : outcome = .done
          · simp [proceed, hdone, Manager.place, Manager.ensureSchema]
          · simp [proceed, hdone, Manager.place]
    | connecting =>
      unfold proceed
      cases m.pool? key <;> exact hsame
    | creating =>
      obtain ⟨d, hd, hpool⟩ := hs
      exact ⟨_, .created hd hpool, rfl, rfl⟩
    | initialising =>
      obtain ⟨p, pool, hp, hpool, -⟩ := hs
      refine ⟨_, .settled .done hp hpool, ?_, ?_⟩
      · simp [proceed, hp]
      · simp [proceed, hp]

/-- What another call knows is still so. -/
theorem Position.Sound.frame {mine : Key → Prop} {m' : Manager} {position : Position}
    (hs : position.Sound m target) (h : Frame mine m m')
    (hheld : ∀ k, Call.Holds ⟨target, position⟩ k → ¬mine k) :
    position.Sound m' target := by
  cases position with
  | returned p => exact h.pools target p hs
  | raised key stage => trivial
  | within key stage =>
    refine ⟨fun hne => ⟨(hs.1 hne).1, ?_⟩, ?_⟩
    · rw [h.databases target (hheld target (.inr ⟨rfl, hne⟩))]
      exact (hs.1 hne).2
    · have hstage := hs.2
      have hkey : stage.inside → m'.databases key = m.databases key := fun hin =>
        h.databases key (hheld key (.inl ⟨rfl, hin⟩))
      cases stage with
      | called => trivial
      | queued => trivial
      | locked => trivial
      | discovering => exact ⟨hstage.1, (hkey rfl).trans hstage.2⟩
      | registering => exact ⟨hstage.1, (hkey rfl).trans hstage.2⟩
      | ensuringDatabase login => exact (hkey rfl).trans hstage
      | ensuringSchema login => exact ⟨hstage.1, (hkey rfl).trans hstage.2⟩
      | connecting =>
        obtain ⟨d, hd⟩ := hstage
        exact ⟨d, (hkey rfl).trans hd⟩
      | creating =>
        obtain ⟨d, hd, hpool⟩ := hstage
        exact ⟨d, (hkey rfl).trans hd, hpool⟩
      | initialising =>
        obtain ⟨p, pool, hp, hpool, htables⟩ := hstage
        have hnot : ¬mine key := hheld key (.inl ⟨rfl, rfl⟩)
        exact ⟨p, pool, h.pools key p hp, (h.pool key p hnot hp).trans hpool, htables⟩

theorem Position.Sound.congr {m' : Manager} {position : Position} (hs : position.Sound m target)
    (hdatabases : m'.databases = m.databases) (hpools : m'.pools = m.pools) :
    position.Sound m' target := by
  have hframe : Frame (fun _ => False) m m' := by
    refine ⟨fun k _ => by rw [hdatabases], fun k p hp => ?_, fun k p _ _ => by rw [hpools]⟩
    rwa [Manager.pool?_of_databases hdatabases]
  exact hs.frame hframe fun _ _ hfalse => hfalse

theorem give_sound {p : Nat} (hp : m.pool? key = some p)
    (hnested : key ≠ target → key = .controlPlane ∧ m.databases target = none) :
    (give target key p).Sound m target := by
  unfold give
  by_cases hkey : key = target
  · rw [if_pos hkey, ← hkey]
    exact hp
  · obtain ⟨hcontrol, hnone⟩ := hnested hkey
    rw [if_neg hkey]
    exact ⟨fun h => absurd rfl h, fun h => hkey (hcontrol.trans h.symm), hnone⟩

/-- **A step of a call** leads it to where it again knows what it stands on. -/
theorem act_sound (hs : (Position.within key stage).Sound m target) :
    (act cfg i target key stage outcome m).2.Sound (act cfg i target key stage outcome m).1
      target := by
  obtain ⟨hnested, hs⟩ := hs
  unfold act
  by_cases hraised : outcome = .raised
  · rw [if_pos hraised]
    trivial
  · rw [if_neg hraised]
    unfold proceed
    cases stage with
    | called =>
      dsimp only
      cases hp : m.pool? key with
      | some p => exact give_sound hp hnested
      | none => exact ⟨hnested, trivial⟩
    | queued =>
      dsimp only
      by_cases hfree : m.locks key = none
      · rw [if_pos hfree]
        exact ⟨hnested, trivial⟩
      · rw [if_neg hfree]
        exact ⟨hnested, trivial⟩
    | locked =>
      dsimp only
      cases hd : m.databases key with
      | some d => exact ⟨hnested, d, hd⟩
      | none =>
        cases key with
        | controlPlane => exact ⟨hnested, hd⟩
        | tenant tenantId =>
          have htarget : Key.tenant tenantId = target := by
            by_contra hne
            cases (hnested hne).1
          exact ⟨fun _ => ⟨rfl, htarget ▸ hd⟩, trivial⟩
    | discovering =>
      obtain ⟨hkey, hnone⟩ := hs
      cases key with
      | controlPlane => exact absurd rfl hkey
      | tenant tenantId =>
        dsimp only
        cases (m.tenants.lookup tenantId).or (cfg.tenants tenantId) with
        | some login => exact ⟨hnested, hnone⟩
        | none => exact ⟨hnested, hkey, hnone⟩
    | registering =>
      obtain ⟨hkey, hnone⟩ := hs
      cases key with
      | controlPlane => exact absurd rfl hkey
      | tenant tenantId => exact ⟨hnested, hnone⟩
    | ensuringDatabase login =>
      cases key with
      | controlPlane =>
        refine ⟨fun hne => ⟨rfl, ?_⟩, _, Manager.place_self m .controlPlane login⟩
        exact (Manager.place_of_ne m (Ne.symm hne) login).trans (hnested hne).2
      | tenant tenantId => exact ⟨hnested, by simp, hs⟩
    | ensuringSchema login =>
      cases key with
      | controlPlane => exact absurd rfl hs.1
      | tenant tenantId =>
        have htarget : ¬Key.tenant tenantId ≠ target := fun hne => by cases (hnested hne).1
        exact ⟨fun hne => absurd hne htarget, _, Manager.place_self _ _ login⟩
    | connecting =>
      obtain ⟨d, hd⟩ := hs
      dsimp only
      cases hp : m.pool? key with
      | some p => exact Position.Sound.congr (give_sound hp hnested) rfl rfl
      | none =>
        have hpool : d.pool = none := by
          unfold Manager.pool? at hp
          rwa [hd] at hp
        exact ⟨hnested, d, hd, hpool⟩
    | creating =>
      obtain ⟨d, hd, -⟩ := hs
      refine ⟨fun hne => ⟨(hnested hne).1, ?_⟩, m.pools.length,
        ⟨d.login, searchPath d.schemaName, .running⟩, Manager.pool?_createPool_self hd, ?_, rfl⟩
      · exact (Manager.createPool_of_ne hd (Ne.symm hne)).trans (hnested hne).2
      · rw [Manager.createPool_pools hd, List.getElem?_concat_length]
    | initialising =>
      obtain ⟨p, pool, hp, -, -⟩ := hs
      dsimp only
      rw [hp]
      refine Position.Sound.congr (m := m.settle key .done) (give_sound ?_ ?_) rfl rfl
      · rwa [Manager.pool?_settle]
      · rwa [Manager.settle_databases]

/-- A step of the call keeps the table of locks true. -/
theorem act_locks {holds holds' : Nat → Key → Prop} (h : Agrees m.locks holds)
    (hs : (Position.within key stage).Sound m target)
    (hold : ∀ k, holds i k ↔ Call.Holds ⟨target, .within key stage⟩ k)
    (hothers : ∀ j, j ≠ i → ∀ k, holds' j k ↔ holds j k)
    (hnew : ∀ k, holds' i k ↔ Call.Holds ⟨target, (act cfg i target key stage outcome m).2⟩ k) :
    Agrees (act cfg i target key stage outcome m).1.locks holds' := by
  have hsame : (∀ k, holds' i k ↔ holds i k) → Agrees m.locks holds' := by
    intro hi
    refine h.same fun j k => ?_
    by_cases hj : j = i
    · subst hj
      exact hi k
    · exact hothers j hj k
  -- the locks where the pool is given back
  have hgive : ∀ p, stage.inside → (∀ k, holds' i k ↔ Call.Holds ⟨target, give target key p⟩ k) →
      Agrees (free m.locks key) holds' := by
    intro p hin hgiven
    refine h.free ((hold key).2 (.inl ⟨rfl, hin⟩)) hothers fun k => ?_
    rw [hgiven k, hold k]
    unfold give Call.Holds
    by_cases hkey : key = target
    · subst hkey
      simp only [if_pos, ne_eq, not_true_eq_false, and_false, or_false]
      exact iff_of_false id fun h => h.1 h.2.1
    · simp only [if_neg hkey, Stage.inside]
      by_cases hk : k = key
      · simp [hk, hkey]
      · simp [hk, hkey]
  obtain ⟨hnested, hs⟩ := hs
  unfold act at hnew ⊢
  by_cases hraised : outcome = .raised
  · rw [if_pos hraised] at hnew ⊢
    have hleave : Agrees (leave m.locks i) holds' := h.leave hothers fun k hk => (hnew k).1 hk
    unfold abandon
    exact hleave
  · rw [if_neg hraised] at hnew ⊢
    unfold proceed at hnew ⊢
    cases stage with
    | called =>
      dsimp only at hnew ⊢
      cases hp : m.pool? key with
      | some p =>
        rw [hp] at hnew
        refine hsame fun k => (hnew k).trans ((?_ : _ ↔ _).trans (hold k).symm)
        unfold give Call.Holds
        by_cases hkey : key = target
        · simp [hkey, Stage.inside]
        · simp [hkey, Stage.inside]
      | none =>
        rw [hp] at hnew
        exact hsame fun k => (hnew k).trans (hold k).symm
    | queued =>
      dsimp only at hnew ⊢
      by_cases hfree : m.locks key = none
      · rw [if_pos hfree] at hnew ⊢
        refine h.take hfree hothers fun k => ?_
        rw [hnew k, hold k]
        simp [Call.Holds, Stage.inside]
      · rw [if_neg hfree] at hnew ⊢
        exact hsame fun k => (hnew k).trans (hold k).symm
    | locked =>
      dsimp only at hnew ⊢
      cases hd : m.databases key with
      | some d =>
        rw [hd] at hnew
        exact hsame fun k => (hnew k).trans (hold k).symm
      | none =>
        rw [hd] at hnew
        cases key with
        | controlPlane => exact hsame fun k => (hnew k).trans (hold k).symm
        | tenant tenantId =>
          have htarget : target = Key.tenant tenantId := by
            by_contra hne
            cases (hnested (Ne.symm hne)).1
          subst htarget
          refine hsame fun k => (hnew k).trans ((?_ : _ ↔ _).trans (hold k).symm)
          simp [Call.Holds, Stage.inside]
    | discovering =>
      cases key with
      | controlPlane => exact hsame fun k => (hnew k).trans (hold k).symm
      | tenant tenantId =>
        dsimp only at hnew ⊢
        cases hlogin : (m.tenants.lookup tenantId).or (cfg.tenants tenantId) with
        | some login =>
          rw [hlogin] at hnew
          exact hsame fun k => (hnew k).trans (hold k).symm
        | none =>
          rw [hlogin] at hnew
          exact hsame fun k => (hnew k).trans (hold k).symm
    | registering => cases key <;> exact hsame fun k => (hnew k).trans (hold k).symm
    | ensuringDatabase login => cases key <;> exact hsame fun k => (hnew k).trans (hold k).symm
    | ensuringSchema login =>
      cases key with
      | controlPlane => exact hsame fun k => (hnew k).trans (hold k).symm
      | tenant tenantId =>
        have hlocks :
            ((if outcome = .done then m.ensureSchema tenantId else m).place (.tenant tenantId)
              login).locks = m.locks := by
          by_cases hdone : outcome = .done
          · rw [if_pos hdone]
            rfl
          · rw [if_neg hdone]
            rfl
        dsimp only
        rw [hlocks]
        exact hsame fun k => (hnew k).trans (hold k).symm
    | connecting =>
      dsimp only at hnew ⊢
      cases hp : m.pool? key with
      | some p =>
        rw [hp] at hnew
        exact hgive p rfl hnew
      | none =>
        rw [hp] at hnew
        exact hsame fun k => (hnew k).trans (hold k).symm
    | creating =>
      obtain ⟨d, hd, -⟩ := hs
      have hlocks : (m.createPool key).locks = m.locks := by
        unfold Manager.createPool
        rw [hd]
      dsimp only
      rw [hlocks]
      exact hsame fun k => (hnew k).trans (hold k).symm
    | initialising =>
      obtain ⟨p, pool, hp, -, -⟩ := hs
      dsimp only at hnew ⊢
      rw [hp] at hnew ⊢
      exact hgive p rfl hnew

/-- The tables of a pool after a step inside its lock. -/
theorem act_tables (hs : stage.Sound m key) {p : Nat} {pool : Pool}
    (hp : (act cfg i target key stage outcome m).1.pool? key = some p)
    (hpool : (act cfg i target key stage outcome m).1.pools[p]? = some pool) :
    pool.tables = .done ∨
    (pool.tables = .running ∧
      (act cfg i target key stage outcome m).2 = .within key .initialising) ∨
    (pool.tables = .failed ∧ (act cfg i target key stage outcome m).2 = .raised key .initialising) ∨
    (m.pool? key = some p ∧ m.pools[p]? = some pool ∧ stage ≠ .initialising) := by
  by_cases hinit : stage = .initialising
  · subst hinit
    obtain ⟨q, before, hq, hbefore, -⟩ := hs
    have hsettled : ∀ tables, (m.settle key tables).pool? key = some p →
        (m.settle key tables).pools[p]? = some pool → pool.tables = tables := by
      intro tables hp hpool
      rw [Manager.pool?_settle, hq, Option.some.injEq] at hp
      subst hp
      rw [Manager.settle_pool hq _ hbefore, Option.some.injEq] at hpool
      rw [← hpool]
    by_cases hraised : outcome = .raised
    · have hact : act cfg i target key .initialising outcome m =
          ({ m.settle key .failed with locks := leave m.locks i }, .raised key .initialising) :=
            if_pos hraised
      rw [hact] at hp hpool ⊢
      exact .inr (.inr (.inl ⟨hsettled .failed hp hpool, rfl⟩))
    · have hact : act cfg i target key .initialising outcome m =
          ({ m.settle key .done with locks := free m.locks key }, give target key q) := by
        unfold act proceed
        rw [if_neg hraised, hq]
      rw [hact] at hp hpool
      exact .inl (hsettled .done hp hpool)
  · by_cases hraised : outcome = .raised
    · have hact : act cfg i target key stage outcome m =
          ({ m with locks := leave m.locks i }, .raised key stage) := by
        unfold act abandon
        rw [if_pos hraised, if_neg hinit]
      rw [hact] at hp hpool
      exact .inr (.inr (.inr ⟨hp, hpool, hinit⟩))
    · by_cases hcreating : stage = .creating
      · subst hcreating
        obtain ⟨d, hd, -⟩ := hs
        have hact : act cfg i target key .creating outcome m =
            (m.createPool key, .within key .initialising) :=
          if_neg hraised
        rw [hact] at hp hpool ⊢
        rw [Manager.pool?_createPool_self hd, Option.some.injEq] at hp
        subst hp
        rw [Manager.createPool_pools hd, List.getElem?_concat_length, Option.some.injEq] at hpool
        exact .inr (.inl ⟨by rw [← hpool], rfl⟩)
      · obtain ⟨n, hn, hdatabases, hpools⟩ := act_did cfg i target outcome hs
        rw [Manager.pool?_of_databases hdatabases] at hp
        rw [hpools] at hpool
        refine .inr (.inr (.inr ?_))
        cases hn with
        | nothing => exact ⟨hp, hpool, hinit⟩
        | placed login hin hnone =>
          rw [Manager.pool?_place hnone] at hp
          exact ⟨hp, hpool, hinit⟩
        | settled => exact absurd rfl hinit
        | created => exact absurd rfl hcreating

end Act

/-! ## All calls together -/

namespace State

def Holds (s : State) (i : Nat) (k : Key) : Prop := ∃ c, s.calls[i]? = some c ∧ c.Holds k

def Waits (s : State) (i : Nat) (k : Key) : Prop := ∃ c, s.calls[i]? = some c ∧ c.Waits k

/-- The tables of a pool are there, or some call is at them, or one has raised at them. -/
def Attended (s : State) (k : Key) (pool : Pool) : Prop :=
  pool.tables = .done ∨
  (pool.tables = .running ∧
    ∃ (i : Nat) (target : Key), s.calls[i]? = some ⟨target, .within k .initialising⟩) ∨
  (pool.tables = .failed ∧
    ∃ (i : Nat) (target : Key), s.calls[i]? = some ⟨target, .raised k .initialising⟩)

structure Inv (s : State) : Prop where
  ok : s.manager.Ok
  locks : Agrees s.manager.locks s.Holds
  calls : ∀ (i : Nat) (c : Call), s.calls[i]? = some c → c.position.Sound s.manager c.target
  tables : ∀ k p pool, s.manager.pool? k = some p → s.manager.pools[p]? = some pool →
    s.Attended k pool

end State

theorem inv_fresh (tenants : List (String × Login)) (schemas : List String) :
    (fresh tenants schemas).Inv where
  ok := ⟨nofun, nofun, nofun, nofun⟩
  locks := by
    intro k i
    refine iff_of_false nofun ?_
    rintro ⟨c, hc, -⟩
    cases hc
  calls := nofun
  tables := nofun

section Steps

variable {cfg : Config} {s : State}

theorem inv_call (h : s.Inv) (key : Key) : (step cfg s (.call key)).Inv := by
  have hcalls : ∀ {i : Nat} {c : Call}, (s.calls ++ [⟨key, .within key .called⟩])[i]? = some c →
      s.calls[i]? = some c ∨ c = ⟨key, .within key .called⟩ := by
    intro i c hc
    rcases Nat.lt_or_ge i s.calls.length with hlt | hge
    · rw [List.getElem?_append_left hlt] at hc
      exact .inl hc
    · rw [List.getElem?_append_right hge] at hc
      exact .inr (by simpa using List.mem_of_getElem? hc)
  have hkept : ∀ {i : Nat} {c : Call}, s.calls[i]? = some c →
      (s.calls ++ [⟨key, .within key .called⟩])[i]? = some c := by
    intro i c hc
    have hlt : i < s.calls.length := (List.getElem?_eq_some_iff.1 hc).1
    rw [List.getElem?_append_left hlt]
    exact hc
  refine ⟨h.ok, h.locks.same fun i k => ?_, fun i c hc => ?_, fun k p pool hp hpool => ?_⟩
  · constructor
    · rintro ⟨c, hc, hk⟩
      rcases hcalls hc with hc | rfl
      · exact ⟨c, hc, hk⟩
      · simp [Call.Holds, Stage.inside] at hk
    · rintro ⟨c, hc, hk⟩
      exact ⟨c, hkept hc, hk⟩
  · rcases hcalls hc with hc | rfl
    · exact h.calls i c hc
    · exact ⟨fun hne => absurd rfl hne, trivial⟩
  · rcases h.tables k p pool hp hpool with hdone | ⟨hrunning, i, target, hi⟩ |
      ⟨hfailed, i, target, hi⟩
    · exact .inl hdone
    · exact .inr (.inl ⟨hrunning, i, target, hkept hi⟩)
    · exact .inr (.inr ⟨hfailed, i, target, hkept hi⟩)

theorem go_at {i : Nat} {target key : Key} {stage : Stage}
    (hi : s.calls[i]? = some ⟨target, .within key stage⟩) (outcome : Outcome) : s.go cfg i outcome =
      { manager := (act cfg i target key stage outcome s.manager).1
        calls := s.calls.set i ⟨target, (act cfg i target key stage outcome s.manager).2⟩ } := by
  unfold State.go
  rw [hi]

theorem go_cases (cfg : Config) (s : State) (i : Nat) (outcome : Outcome) :
    (∃ target key stage, s.calls[i]? = some ⟨target, .within key stage⟩) ∨
      s.go cfg i outcome = s := by
  unfold State.go
  cases hi : s.calls[i]? with
  | none => exact .inr rfl
  | some c =>
    obtain ⟨target, position⟩ := c
    cases position with
    | within key stage => exact .inl ⟨target, key, stage, rfl⟩
    | returned p => exact .inr rfl
    | raised key stage => exact .inr rfl

theorem inv_go_at (h : s.Inv) {i : Nat} {target key : Key} {stage : Stage}
    (hi : s.calls[i]? = some ⟨target, .within key stage⟩) (outcome : Outcome) :
    (s.go cfg i outcome).Inv := by
  rw [go_at hi]
  have hsound := h.calls i _ hi
  have hlt : i < s.calls.length := (List.getElem?_eq_some_iff.1 hi).1
  obtain ⟨n, hn, hdatabases, hpools⟩ := act_did cfg i target outcome hsound.2
  have hpool? := Manager.pool?_of_databases hdatabases
  have hframe : Frame (fun k => k = key ∧ stage.inside) s.manager
      (act cfg i target key stage outcome s.manager).1 := by
    have hframe := hn.frame h.ok
    refine ⟨fun k hk => ?_, fun k p hp => ?_, fun k p hk hp => ?_⟩
    · rw [hdatabases]
      exact hframe.databases k hk
    · rw [hpool?]
      exact hframe.pools k p hp
    · rw [hpools]
      exact hframe.pool k p hk hp
  have hself : (s.calls.set i ⟨target, (act cfg i target key stage outcome s.manager).2⟩)[i]? =
      some ⟨target, (act cfg i target key stage outcome s.manager).2⟩ := List.getElem?_set_self hlt
  have hother : ∀ {j : Nat}, j ≠ i →
      (s.calls.set i ⟨target, (act cfg i target key stage outcome s.manager).2⟩)[j]? =
        s.calls[j]? := by
    intro j hj
    exact List.getElem?_set_ne (Ne.symm hj)
  refine ⟨(hn.ok h.ok).congr hdatabases hpools, ?_, fun j c hj => ?_, fun k p pool hp hpool => ?_⟩
  · refine act_locks h.locks hsound (fun k => ?_) (fun j hj k => ?_) fun k => ?_
    · simp [State.Holds, hi]
    · unfold State.Holds
      rw [hother hj]
    · simp [State.Holds, hself]
  · by_cases hji : j = i
    · subst hji
      rw [hself, Option.some.injEq] at hj
      rw [← hj]
      exact act_sound hsound
    · rw [hother hji] at hj
      refine (h.calls j c hj).frame hframe fun k hk hmine => hji ?_
      have hown : s.Holds i k := ⟨_, hi, .inl hmine⟩
      exact h.locks.exclusive ⟨c, hj, hk⟩ hown
  · -- the pool was there, and the call that attends to it is another one
    have hbefore : ∀ k, s.manager.pool? k = some p → s.manager.pools[p]? = some pool →
        ¬(k = key ∧ stage = .initialising) → State.Attended
          { manager := (act cfg i target key stage outcome s.manager).1
            calls :=
              s.calls.set i ⟨target, (act cfg i target key stage outcome s.manager).2⟩ }
              k pool := by
      intro k hp hpool hnot
      rcases h.tables k p pool hp hpool with hdone | ⟨hrunning, j, target', hj⟩ |
        ⟨hfailed, j, target', hj⟩
      · exact .inl hdone
      · refine .inr (.inl ⟨hrunning, j, target', ?_⟩)
        have hji : j ≠ i := by
          rintro rfl
          rw [hi] at hj
          cases hj
          exact hnot ⟨rfl, rfl⟩
        exact (hother hji).trans hj
      · refine .inr (.inr ⟨hfailed, j, target', ?_⟩)
        have hji : j ≠ i := by
          rintro rfl
          rw [hi] at hj
          cases hj
        exact (hother hji).trans hj
    by_cases hmine : k = key ∧ stage.inside
    · obtain ⟨rfl, -⟩ := hmine
      rcases act_tables hsound.2 hp hpool with hdone | ⟨hrunning, hat⟩ | ⟨hfailed, hat⟩ |
        ⟨hp, hpool, hstage⟩
      · exact .inl hdone
      · exact .inr (.inl ⟨hrunning, i, target, by rw [hself, hat]⟩)
      · exact .inr (.inr ⟨hfailed, i, target, by rw [hself, hat]⟩)
      · exact hbefore k hp hpool fun hinit => hstage hinit.2
    · have hp' : s.manager.pool? k = some p := by
        unfold Manager.pool? at hp ⊢
        rwa [hframe.databases k hmine] at hp
      have hpool' : s.manager.pools[p]? = some pool := (hframe.pool k p hmine hp').symm.trans hpool
      refine hbefore k hp' hpool' fun hinit => hmine ⟨hinit.1, ?_⟩
      rw [hinit.2]
      rfl

/-- **One step** keeps the invariant, whatever it is. -/
theorem inv_step (cfg : Config) (h : s.Inv) (turn : Turn) : (step cfg s turn).Inv := by
  cases turn with
  | call key => exact inv_call h key
  | write tenants =>
    refine ⟨h.ok.congr rfl rfl, h.locks, fun i c hc => ?_, h.tables⟩
    exact (h.calls i c hc).congr rfl rfl
  | go i outcome =>
    rcases go_cases cfg s i outcome with ⟨target, key, stage, hi⟩ | hsame
    · exact inv_go_at h hi outcome
    · show (s.go cfg i outcome).Inv
      rw [hsame]
      exact h

theorem inv_run (cfg : Config) (h : s.Inv) (turns : List Turn) : (run (step cfg) s turns).Inv := by
  have hstep : ∀ (s : State) (turn : Turn), s.Inv → (step cfg s turn).Inv :=
    fun _ turn h => inv_step cfg h turn
  exact run_inv_of_step hstep h turns

end Steps

/-! ## One pool -/

/-- The call is between taking the lock of this pool and giving it back. -/
def Call.Inside (c : Call) (k : Key) : Prop :=
  ∃ stage : Stage, c.position = .within k stage ∧ stage.inside

/-! ### The schema of a pool -/

def Pool.schema (pool : Pool) : Option String := pool.searchPath.bind firstSchema

/-- The id is the name of a schema as it stands. -/
structure Plain (tenantId : String) : Prop where
  nonEmpty : tenantId ≠ ""
  unquoted : Text.doubleQuote ∉ tenantId.toList
  short : (tenantId.toList.map Char.utf8Size).sum ≤ 63

theorem unquote_closed {cs rest : List Char} (h : Text.doubleQuote ∉ cs)
    (hrest : ∀ c ∈ rest.head?, c ≠ Text.doubleQuote) :
    unquote (cs ++ Text.doubleQuote :: rest) = cs := by
  induction cs with
  | nil =>
    cases rest with
    | nil => simp [unquote]
    | cons c rest => simpa [unquote] using hrest
  | cons c cs ih =>
    rw [List.mem_cons, not_or] at h
    rw [List.cons_append]
    unfold unquote
    rw [if_neg (Ne.symm h.1), ih h.2]

theorem clip_eq_self {n : Nat} {cs : List Char} (h : (cs.map Char.utf8Size).sum ≤ n) :
    clip n cs = cs := by
  induction cs generalizing n with
  | nil => rfl
  | cons c cs ih =>
    rw [List.map_cons, List.sum_cons] at h
    rw [clip, if_pos (by omega), ih (by omega)]

theorem Plain.schema {tenantId : String} (h : Plain tenantId) {pool : Pool}
    (hpath : pool.searchPath = searchPath (Key.tenant tenantId).schemaName) :
    pool.schema = some tenantId := by
  have hlist : ("\"" ++ tenantId ++ "\", public").toList =
      Text.doubleQuote :: (tenantId.toList ++ Text.doubleQuote :: ", public".toList) := by
    rw [String.toList_append, String.toList_append, List.append_assoc]
    rfl
  have hnext : ∀ c ∈ (", public".toList).head?, c ≠ Text.doubleQuote := by
    intro c hc
    obtain rfl : ',' = c := by simpa using hc
    decide
  have hread : firstSchema ("\"" ++ tenantId ++ "\", public") = some tenantId := by
    unfold firstSchema
    rw [hlist]
    dsimp only
    rw [if_pos rfl, unquote_closed h.unquoted hnext, clip_eq_self h.short, String.ofList_toList]
  unfold Pool.schema
  rw [hpath, searchPath, Key.schemaName, Text.nonEmpty_some h.nonEmpty]
  exact hread

/-- What callers rely on. -/
structure Once (s : State) : Prop where
  single : ∀ p pool, s.manager.pools[p]? = some pool → ∃! k, s.manager.pool? k = some p
  agree : ∀ (i j : Nat) (k : Key) (p q : Nat), s.calls[i]? = some ⟨k, .returned p⟩ →
    s.calls[j]? = some ⟨k, .returned q⟩ → p = q
  own : ∀ (i : Nat) (k : Key) (p : Nat), s.calls[i]? = some ⟨k, .returned p⟩ →
    ∃ pool, s.manager.pools[p]? = some pool ∧ pool.searchPath = searchPath k.schemaName ∧
      s.Attended k pool ∧ ∀ tenantId, k = .tenant tenantId → Plain tenantId →
        pool.schema = some tenantId
  alone : ∀ (i j : Nat) (c d : Call) (k : Key), s.calls[i]? = some c → s.calls[j]? = some d →
    c.Inside k → d.Inside k → i = j

theorem State.Inv.once {s : State} (h : s.Inv) : Once s where
  single p pool hp := by
    obtain ⟨k, hk⟩ := h.ok.opened p pool hp
    exact ⟨k, hk, fun l hl => h.ok.apart l k p hl hk⟩
  agree i j k p q hi hj := Option.some.inj ((h.calls i _ hi).symm.trans (h.calls j _ hj))
  own i k p hi := by
    have hp : s.manager.pool? k = some p := h.calls i _ hi
    obtain ⟨pool, hpool, hpath⟩ := h.ok.known k p hp
    refine ⟨pool, hpool, hpath, h.tables k p pool hp hpool, ?_⟩
    rintro tenantId rfl hplain
    exact hplain.schema hpath
  alone i j c d k hi hj hc hd := by
    have hholds : ∀ {c : Call}, c.Inside k → c.Holds k := by
      rintro ⟨target, position⟩ ⟨stage, hposition, hin⟩
      unfold Call.Holds
      rw [hposition]
      exact .inl ⟨rfl, hin⟩
    exact h.locks.exclusive ⟨c, hi, hholds hc⟩ ⟨d, hj, hholds hd⟩

/-- **No pool is opened twice**: whatever calls are made and in whatever order they go on, raise or
are cancelled, each pool is that of one tenant or of the control plane, every call that returns has
the one of its own, and at most one call at a time is opening it. The search path is the one written
for this id, and names the schema of that name where the id is plain. The tables of a pool that is
returned are there, unless some call is making them or has raised there. -/
theorem one_pool (cfg : Config) (tenants : List (String × Login)) (schemas : List String)
    (turns : List Turn) :
    Once (run (step cfg) (fresh tenants schemas) turns) :=
  (inv_run cfg (inv_fresh tenants schemas) turns).once

/-! ## No call waits for ever -/

/-- The steps that a call has left, the longest way; `nested` where it is at the control plane's
pool for the sake of a tenant's. -/
def Stage.left (nested : Bool) : Stage → Nat
  | called => if nested then 19 else 22
  | queued => if nested then 18 else 21
  | locked => if nested then 17 else 20
  | discovering => 10
  | registering => 9
  | ensuringDatabase _ => if nested then 16 else 8
  | ensuringSchema _ => 7
  | connecting => if nested then 15 else 6
  | creating => if nested then 14 else 5
  | initialising => if nested then 13 else 4

def Position.left (target : Key) : Position → Nat
  | .within key stage => stage.left (key ≠ target)
  | _ => 0

def State.left (s : State) : Nat := (s.calls.map fun c => c.position.left c.target).sum

def Call.Ended (c : Call) : Prop := ∀ key stage, c.position ≠ .within key stage

section Progress

variable {cfg : Config} {i : Nat} {target key : Key} {stage : Stage} {m : Manager}

theorem give_left (target key : Key) (p : Nat) :
    (give target key p).left target = if key = target then 0 else 10 := by
  unfold give
  by_cases hkey : key = target
  · rw [if_pos hkey, if_pos hkey]
    rfl
  · rw [if_neg hkey, if_neg hkey]
    rfl

/-- A step that is not blocked leads nearer to the end. -/
theorem act_left (cfg : Config) (i : Nat) (hs : (Position.within key stage).Sound m target)
    (hfree : stage = .queued → m.locks key = none) :
    (act cfg i target key stage .done m).2.left target <
      (Position.within key stage).left target := by
  obtain ⟨hnested, hs⟩ := hs
  have hlong : ∀ p, stage = .called ∨ stage = .connecting ∨ stage = .initialising →
      (give target key p).left target < (Position.within key stage).left target := by
    intro p hstage
    rw [give_left]
    by_cases hkey : key = target
    · rw [if_pos hkey]
      rcases hstage with rfl | rfl | rfl <;> simp [Position.left, Stage.left, hkey]
    · rw [if_neg hkey]
      rcases hstage with rfl | rfl | rfl <;> simp [Position.left, Stage.left, hkey]
  unfold act
  rw [if_neg (by decide)]
  unfold proceed
  by_cases hkey : key = target
  · subst hkey
    cases stage with
    | called =>
      dsimp only
      cases hp : m.pool? key with
      | some p => exact hlong p (.inl rfl)
      | none => simp [Position.left, Stage.left]
    | queued =>
      dsimp only
      rw [if_pos (hfree rfl)]
      simp [Position.left, Stage.left]
    | locked =>
      dsimp only
      cases hd : m.databases key with
      | some d => simp [Position.left, Stage.left]
      | none => cases key <;> simp [Position.left, Stage.left]
    | discovering =>
      cases key with
      | controlPlane => exact absurd rfl hs.1
      | tenant tenantId =>
        dsimp only
        cases (m.tenants.lookup tenantId).or (cfg.tenants tenantId) <;>
          simp [Position.left, Stage.left]
    | registering =>
      cases key with
      | controlPlane => exact absurd rfl hs.1
      | tenant tenantId => simp [Position.left, Stage.left]
    | ensuringDatabase login => cases key <;> simp [Position.left, Stage.left]
    | ensuringSchema login =>
      cases key with
      | controlPlane => exact absurd rfl hs.1
      | tenant tenantId => simp [Position.left, Stage.left]
    | connecting =>
      dsimp only
      cases hp : m.pool? key with
      | some p => exact hlong p (.inr (.inl rfl))
      | none => simp [Position.left, Stage.left]
    | creating => simp [Position.left, Stage.left]
    | initialising =>
      obtain ⟨p, pool, hp, -⟩ := hs
      dsimp only
      rw [hp]
      exact hlong p (.inr (.inr rfl))
  · obtain ⟨rfl, -⟩ := hnested hkey
    cases stage with
    | called =>
      dsimp only
      cases hp : m.pool? .controlPlane with
      | some p => exact hlong p (.inl rfl)
      | none => simp [Position.left, Stage.left, hkey]
    | queued =>
      dsimp only
      rw [if_pos (hfree rfl)]
      simp [Position.left, Stage.left, hkey]
    | locked =>
      dsimp only
      cases hd : m.databases .controlPlane with
      | some d => simp [Position.left, Stage.left, hkey]
      | none => simp [Position.left, Stage.left, hkey]
    | discovering => exact absurd rfl hs.1
    | registering => exact absurd rfl hs.1
    | ensuringDatabase login => simp [Position.left, Stage.left, hkey]
    | ensuringSchema login => exact absurd rfl hs.1
    | connecting =>
      dsimp only
      cases hp : m.pool? .controlPlane with
      | some p => exact hlong p (.inr (.inl rfl))
      | none => simp [Position.left, Stage.left, hkey]
    | creating => simp [Position.left, Stage.left, hkey]
    | initialising =>
      obtain ⟨p, pool, hp, -⟩ := hs
      dsimp only
      rw [hp]
      exact hlong p (.inr (.inr rfl))

/-- What is awaited does not raise, so neither does the call. -/
theorem act_not_raised (k : Key) (stage' : Stage) :
    (act cfg i target key stage .done m).2 ≠ .raised k stage' := by
  have hgive : ∀ p : Nat, give target key p ≠ .raised k stage' := by
    intro p
    unfold give
    split_ifs <;> simp
  unfold act
  rw [if_neg (by decide)]
  unfold proceed
  cases stage with
  | called =>
    dsimp only
    cases m.pool? key with
    | some p => exact hgive p
    | none => simp
  | queued =>
    dsimp only
    split_ifs <;> simp
  | locked =>
    dsimp only
    cases m.databases key <;> cases key <;> simp
  | discovering =>
    cases key with
    | controlPlane => simp
    | tenant tenantId =>
      dsimp only
      cases (m.tenants.lookup tenantId).or (cfg.tenants tenantId) <;> simp
  | registering => cases key <;> simp
  | ensuringDatabase login => cases key <;> simp
  | ensuringSchema login => cases key <;> simp
  | connecting =>
    dsimp only
    cases m.pool? key with
    | some p => exact hgive p
    | none => simp
  | creating => simp
  | initialising =>
    dsimp only
    cases m.pool? key with
    | some p => exact hgive p
    | none => simp

end Progress

section End

variable {cfg : Config} {s : State}

/-- The control plane's lock is taken last. -/
def Key.rank : Key → Nat
  | tenant _ => 0
  | controlPlane => 1

theorem State.Inv.ordered (h : s.Inv) (i : Nat) (k l : Key) (hk : s.Holds i k) (hl : s.Waits i l) :
    k.rank < l.rank := by
  obtain ⟨c, hc, hk⟩ := hk
  obtain ⟨d, hd, hl⟩ := hl
  rw [hc, Option.some.injEq] at hd
  subst hd
  obtain ⟨target, position⟩ := c
  unfold Call.Waits at hl
  dsimp only at hl
  subst hl
  rcases hk with ⟨-, hin⟩ | ⟨hk, hne⟩
  · cases hin
  · obtain ⟨rfl, -⟩ := (h.calls i _ hc).1 hne
    cases target with
    | controlPlane => exact absurd rfl hne
    | tenant tenantId =>
      dsimp only at hk
      rw [hk]
      exact Nat.zero_lt_one

/-- **Some call can go on**, if not all have ended. -/
theorem exists_go (cfg : Config) (h : s.Inv) (hends : ¬∀ c ∈ s.calls, c.Ended) :
    ∃ i, (s.go cfg i .done).left < s.left := by
  push Not at hends
  obtain ⟨c, hc, hopen⟩ := hends
  obtain ⟨i, hi⟩ := List.getElem?_of_mem hc
  have hbound : ∀ k : Key, k.rank ≤ 1 := fun k => by cases k <;> simp [Key.rank]
  obtain ⟨j, hj, hfree⟩ := exists_unblocked h.locks hbound h.ordered i
  have hat : ∃ target key stage, s.calls[j]? = some ⟨target, .within key stage⟩ := by
    rcases hj with rfl | ⟨k, d, hd, hk⟩
    · unfold Call.Ended at hopen
      push Not at hopen
      obtain ⟨key, stage, hposition⟩ := hopen
      exact ⟨c.target, key, stage, hi.trans (by rw [← hposition])⟩
    · obtain ⟨target, position⟩ := d
      cases position with
      | within key stage => exact ⟨target, key, stage, hd⟩
      | returned p => exact hk.elim
      | raised key stage => exact hk.elim
  obtain ⟨target, key, stage, hj⟩ := hat
  refine ⟨j, ?_⟩
  rw [go_at hj]
  have hstep := act_left cfg j (h.calls j _ hj) fun hqueued =>
    hfree key ⟨_, hj, by rw [hqueued]; rfl⟩
  have hsum := sum_map_set (fun c : Call => c.position.left c.target)
    ⟨target, (act cfg j target key stage .done s.manager).2⟩ hj
  unfold State.left
  dsimp only at hsum hstep ⊢
  omega

/-- What has become of the calls of `s`. -/
structure Since (s s' : State) : Prop where
  length : s'.calls.length = s.calls.length
  target : ∀ (i : Nat) (c : Call), s.calls[i]? = some c → ∃ c', s'.calls[i]? = some c' ∧
    c'.target = c.target ∧ (∀ k stage, c'.position = .raised k stage → c' = c)

theorem Since.go {s' : State} (h : Since s s') (i : Nat) : Since s (s'.go cfg i .done) := by
  rcases go_cases cfg s' i .done with ⟨target, key, stage, hi⟩ | hsame
  · rw [go_at hi]
    refine ⟨by rw [List.length_set, h.length], fun j c hj => ?_⟩
    obtain ⟨c', hc', htarget, hraised⟩ := h.target j c hj
    by_cases hji : j = i
    · subst hji
      rw [hi, Option.some.injEq] at hc'
      refine ⟨_, List.getElem?_set_self (List.getElem?_eq_some_iff.1 hi).1,
        by rw [← htarget, ← hc'], ?_⟩
      exact fun k stage' hposition => absurd hposition (act_not_raised k stage')
    · exact ⟨c', (List.getElem?_set_ne (Ne.symm hji)).trans hc', htarget, hraised⟩
  · rw [hsame]
    exact h

/-- **The pools can be opened**: from wherever the calls have come to, if nothing that is
awaited raises any more, they can all come to their end, and every one that has not raised
before gets its pool. -/
theorem pools_open (cfg : Config) (tenants : List (String × Login)) (schemas : List String)
    (turns : List Turn) :
    ∃ more : List Turn, (∀ turn ∈ more, ∃ i, turn = .go i .done) ∧
      ∀ (i : Nat) (c : Call), (run (step cfg) (fresh tenants schemas) turns).calls[i]? = some c →
        (∃ k stage, c.position = .raised k stage) ∨
        ∃ p, (run (step cfg) (fresh tenants schemas) (turns ++ more)).calls[i]? =
          some ⟨c.target, .returned p⟩ := by
  have hinv := inv_run cfg (inv_fresh tenants schemas) turns
  generalize hs : run (step cfg) (fresh tenants schemas) turns = s at hinv ⊢
  have hstart : s.Inv ∧ Since s s := ⟨hinv, rfl, fun i c hc => ⟨c, hc, rfl, fun _ _ _ => rfl⟩⟩
  have hnearer : ∀ s', s'.Inv ∧ Since s s' → ¬(∀ c ∈ s'.calls, c.Ended) →
      ∃ turn, (∃ i, turn = Turn.go i .done) ∧
      ((step cfg s' turn).Inv ∧ Since s (step cfg s' turn)) ∧
        (step cfg s' turn).left < s'.left := by
    intro s' h hends
    obtain ⟨i, hi⟩ := exists_go cfg h.1 hends
    exact ⟨.go i .done, ⟨i, rfl⟩, ⟨inv_step cfg h.1 _, h.2.go i⟩, hi⟩
  obtain ⟨more, hkind, ⟨-, hsince⟩, hends⟩ := exists_end hnearer hstart
  refine ⟨more, hkind, fun i c hc => ?_⟩
  rw [run_append, hs]
  obtain ⟨c', hc', htarget, hraised⟩ := hsince.target i c hc
  have hended := hends c' (List.mem_of_getElem? hc')
  obtain ⟨target', position'⟩ := c'
  cases position' with
  | within key stage => exact absurd rfl (hended key stage)
  | returned p => exact .inr ⟨p, by rw [hc', ← htarget]⟩
  | raised k stage =>
    have hsame := hraised k stage rfl
    exact .inl ⟨k, stage, by rw [← hsame]⟩

end End

end Sams.Platform
