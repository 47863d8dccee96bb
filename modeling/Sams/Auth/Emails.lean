import Sams.Auth.World

/-!
# Emails that are normalized

What the tables of the platform owe to emails that were stripped and lowered: the database lowers
them no further, and normalizing them again changes nothing. The ASCII tables keep to both.
-/

namespace Sams.Auth

/-- What a normalized email can rely on. -/
structure LawfulTables [Unicode] : Prop where
  sqlLower_normalize : ∀ e, Unicode.sqlLower (normalize e) = normalize e
  normalize_normalize : ∀ e, normalize (normalize e) = normalize e

/-- Emails that are normalized are equal when `CITEXT` says so. -/
theorem LawfulTables.eq_of_ciEq [Unicode] (laws : LawfulTables) {e e' : String}
    (h : CiEq (normalize e) (normalize e')) : normalize e = normalize e' := by
  unfold CiEq at h
  rwa [laws.sqlLower_normalize, laws.sqlLower_normalize] at h

/-! ## ASCII -/

theorem toNat_toLower (c : Char) : c.toLower.toNat =
    if 65 ≤ c.toNat ∧ c.toNat ≤ 90 then c.toNat + 32 else c.toNat := by
  have hrange : c.val ≥ 'A'.val ∧ c.val ≤ 'Z'.val ↔ 65 ≤ c.toNat ∧ c.toNat ≤ 90 := Iff.rfl
  unfold Char.toLower
  by_cases h : c.val ≥ 'A'.val ∧ c.val ≤ 'Z'.val
  · rw [dif_pos h, if_pos (hrange.1 h)]
    show (c.val + 32).toNat = c.val.toNat + 32
    have h90 : c.val.toNat ≤ 90 := (hrange.1 h).2
    rw [UInt32.toNat_add]
    show (c.val.toNat + 32) % 2 ^ 32 = _
    omega
  · rw [dif_neg h, if_neg (fun h' => h (hrange.2 h'))]

theorem toLower_toLower (c : Char) : c.toLower.toLower = c.toLower := by
  refine Char.toNat_inj.1 ?_
  rw [toNat_toLower, toNat_toLower]
  split_ifs <;> omega

theorem isSpace_toLower (c : Char) : Text.isSpace c.toLower = Text.isSpace c := by
  unfold Text.isSpace
  rw [toNat_toLower, Bool.eq_iff_iff, List.contains_iff_mem, List.contains_iff_mem]
  unfold Text.spaceCodes
  split_ifs with h
  · constructor
    · intro h'
      simp only [List.mem_cons, List.not_mem_nil, or_false] at h'
      omega
    · intro h'
      simp only [List.mem_cons, List.not_mem_nil, or_false] at h'
      omega
  · rfl

section Ascii

attribute [local instance] ascii

theorem lower_ascii (s : String) : Text.lower s = String.ofList (s.toList.map Char.toLower) := by
  unfold Text.lower
  split_ifs <;> rfl

theorem strip_lower_ascii (s : String) : Text.strip (Text.lower s) = Text.lower (Text.strip s) := by
  have hspace : Text.isSpace ∘ Char.toLower = Text.isSpace := funext isSpace_toLower
  refine String.toList_inj.1 ?_
  rw [Text.toList_strip, lower_ascii, lower_ascii, String.toList_ofList, String.toList_ofList,
    Text.toList_strip, List.dropWhile_map, hspace]
  unfold List.rdropWhile
  rw [← List.map_reverse, List.dropWhile_map, hspace, List.map_reverse]

theorem lower_lower_ascii (s : String) : Text.lower (Text.lower s) = Text.lower s := by
  rw [lower_ascii, lower_ascii, String.toList_ofList, List.map_map]
  congr 1
  exact List.map_congr_left fun c _ => toLower_toLower c

theorem lawful_ascii : LawfulTables where
  sqlLower_normalize e := by
    show String.ofList ((normalize e).toList.map Char.toLower) = normalize e
    rw [← lower_ascii]
    exact lower_lower_ascii _
  normalize_normalize e := by
    unfold normalize
    rw [strip_lower_ascii, Text.strip_strip, lower_lower_ascii]

end Ascii

end Sams.Auth
