import GatedMemory.Command
import Mathlib.Data.List.Forall2

set_option autoImplicit false

namespace GatedMemory

/-- The same character, or the same ASCII letter once as a capital and once small. The small letters
lie 32 code points above their capitals. -/
inductive SameLetter : Char → Char → Prop where
  | same (c : Char) : SameLetter c c
  | lowered {c d : Char} (capital : 65 ≤ c.toNat ∧ c.toNat ≤ 90) (apart : d.toNat = c.toNat + 32) :
    SameLetter c d
  | raised {c d : Char} (capital : 65 ≤ d.toNat ∧ d.toNat ≤ 90) (apart : c.toNat = d.toNat + 32) :
    SameLetter c d

/-- Two texts that differ at most in the case of their ASCII letters. -/
def SameLetters (text other : String) : Prop :=
  List.Forall₂ SameLetter text.toList other.toList

theorem toNat_toLower (c : Char) :
    c.toLower.toNat = if 65 ≤ c.toNat ∧ c.toNat ≤ 90 then c.toNat + 32 else c.toNat := by
  have capital : (c.val ≥ 'A'.val ∧ c.val ≤ 'Z'.val) ↔ 65 ≤ c.toNat ∧ c.toNat ≤ 90 := by
    simp only [ge_iff_le, UInt32.le_iff_toNat_le]
    rfl
  unfold Char.toLower
  by_cases upper : 65 ≤ c.toNat ∧ c.toNat ≤ 90
  · rw [dif_pos (capital.2 upper), if_pos upper]
    have small : c.val.toNat + 32 < 2 ^ 32 := by
      have := upper.2
      change c.val.toNat ≤ 90 at this
      omega
    change (c.val + 32).toNat = c.val.toNat + 32
    rw [UInt32.toNat_add]
    exact Nat.mod_eq_of_lt small
  · rw [dif_neg (mt capital.1 upper), if_neg upper]

theorem sameLetter_iff {c d : Char} : SameLetter c d ↔ c.toLower = d.toLower := by
  rw [← Char.toNat_inj, toNat_toLower, toNat_toLower]
  constructor
  · rintro (_ | ⟨capital, apart⟩ | ⟨capital, apart⟩)
    · rfl
    · rw [if_pos capital, if_neg (by omega), apart]
    · rw [if_neg (by omega), if_pos capital, apart]
  · -- two small forms agree if both come from capitals, or one does, or neither
    intro equal
    by_cases first : 65 ≤ c.toNat ∧ c.toNat ≤ 90 <;> by_cases second : 65 ≤ d.toNat ∧ d.toNat ≤ 90
    · rw [if_pos first, if_pos second] at equal
      rw [Char.toNat_inj.1 (Nat.add_right_cancel equal)]
      exact .same d
    · rw [if_pos first, if_neg second] at equal
      exact .lowered first equal.symm
    · rw [if_neg first, if_pos second] at equal
      exact .raised second equal
    · rw [if_neg first, if_neg second] at equal
      rw [Char.toNat_inj.1 equal]
      exact .same d

theorem sameLetters_iff {text other : String} : SameLetters text other ↔
    text.toList.map Char.toLower = other.toList.map Char.toLower := by
  rw [← List.forall₂_eq_eq_eq, List.forall₂_map_left_iff, List.forall₂_map_right_iff]
  simp only [← sameLetter_iff]
  rfl

section Words

variable {word before after : List Char}

theorem occursIn_iff {text : List Char} : occursIn word text = true ↔ word <:+: text := by
  induction text with
  | nil => rw [occursIn, List.isEmpty_iff, List.infix_nil]
  | cons c rest ih =>
    rw [occursIn, Bool.or_eq_true, List.isPrefixOf_iff_prefix, ih, List.infix_cons_iff]

/-- A word without the character that divides a text begins before it only if it ends there. -/
theorem prefix_of_undivided {c : Char} (absent : c ∉ word)
    (starts : word <+: before ++ c :: after) : word <+: before := by
  rw [List.append_cons] at starts
  rcases List.prefix_or_prefix_of_prefix starts (List.prefix_append _ _) with inside | beyond
  · rcases List.prefix_concat_iff.1 inside with whole | inside
    · exact absurd (whole ▸ List.mem_append_right before List.mem_cons_self) absent
    · exact inside
  · exact absurd (beyond.subset (List.mem_append_right before List.mem_cons_self)) absent

/-- A word stands on one side of a character that it does not have. -/
theorem infix_divided_iff {c : Char} (absent : c ∉ word) :
    word <:+: before ++ c :: after ↔ word <:+: before ∨ word <:+: after := by
  constructor
  · intro inside
    induction before with
    | nil =>
      rcases List.infix_cons_iff.1 inside with starts | later
      · exact .inl (prefix_of_undivided absent starts).isInfix
      · exact .inr later
    | cons d rest ih =>
      rcases List.infix_cons_iff.1 inside with starts | later
      · have earlier : word <+: d :: rest := prefix_of_undivided absent starts
        exact .inl earlier.isInfix
      · exact (ih later).imp_left fun earlier => List.infix_cons earlier
  · rintro (earlier | later)
    · exact earlier.trans (List.prefix_append _ _).isInfix
    · exact later.trans ((List.suffix_cons _ _).trans (List.suffix_append _ _)).isInfix

end Words

/-- The word stands somewhere in the name, in whatever case. -/
def Mentions (word name : String) : Prop :=
  ∃ before part after, name = before ++ part ++ after ∧ SameLetters part word

section Mentions

variable {word name other before after : String}

theorem mentions_iff : Mentions word name ↔
    word.toList.map Char.toLower <:+: name.toList.map Char.toLower := by
  constructor
  · rintro ⟨before, part, after, rfl, same⟩
    rw [← sameLetters_iff.1 same, String.toList_append, String.toList_append, List.map_append,
      List.map_append]
    exact List.infix_append _ _ _
  · rintro ⟨left, right, split⟩
    obtain ⟨begun, after, whole, front, -⟩ := List.map_eq_append_iff.1 split.symm
    obtain ⟨before, part, rfl, -, same⟩ := List.map_eq_append_iff.1 front
    refine ⟨String.ofList before, String.ofList part, String.ofList after, ?_, ?_⟩
    · rw [← String.ofList_append, ← String.ofList_append, ← whole, String.ofList_toList]
    · rw [sameLetters_iff, String.toList_ofList, same]

/-- The case of its letters does not matter to what a name mentions. -/
theorem Mentions.congr (same : SameLetters other name) :
    Mentions word other ↔ Mentions word name := by
  rw [mentions_iff, mentions_iff, sameLetters_iff.1 same]

theorem Mentions.embed (mentions : Mentions word name) (before after : String) :
    Mentions word (before ++ name ++ after) := by
  obtain ⟨left, part, right, rfl, same⟩ := mentions
  refine ⟨before ++ left, part, right ++ after, ?_, same⟩
  simp only [String.append_assoc]

/-- A word of ASCII letters stands on one side of any other character. -/
theorem mentions_divided_iff {c : Char} (ascii : word.toList.all (·.toNat < 128) = true)
    (foreign : 128 ≤ c.toNat) :
    Mentions word (before ++ String.singleton c ++ after) ↔
      Mentions word before ∨ Mentions word after := by
  have absent : c.toLower ∉ word.toList.map Char.toLower := by
    intro inside
    obtain ⟨d, inside, same⟩ := List.mem_map.1 inside
    have small := of_decide_eq_true (List.all_eq_true.1 ascii d inside)
    rw [← Char.toNat_inj, toNat_toLower, toNat_toLower] at same
    split at same <;> split at same <;> omega
  rw [mentions_iff, mentions_iff, mentions_iff, ← infix_divided_iff absent]
  simp only [String.toList_append, String.toList_singleton, List.map_append, List.map_cons,
    List.append_assoc, List.singleton_append]

end Mentions

namespace AccessKind

variable {name : String}

instance (word name : String) : Decidable (Mentions word name) :=
  decidable_of_iff
    (occursIn (word.toList.map Char.toLower) (name.toList.map Char.toLower) = true)
    (occursIn_iff.trans mentions_iff.symm)

theorem ofName_eq (name : String) : ofName name =
    if Mentions "read" name then .read else if Mentions "write" name then .write else .other := by
  simp only [mentions_iff, ← occursIn_iff]
  rfl

theorem ofName_eq_read_iff : ofName name = .read ↔ Mentions "read" name := by
  grind [ofName_eq]

theorem ofName_eq_write_iff :
    ofName name = .write ↔ ¬ Mentions "read" name ∧ Mentions "write" name := by
  grind [ofName_eq]

theorem ofName_eq_other_iff :
    ofName name = .other ↔ ¬ Mentions "read" name ∧ ¬ Mentions "write" name := by
  grind [ofName_eq]

/-- Names that mention the same words are of one kind. -/
theorem ofName_congr {other : String}
    (same : ∀ word, Mentions word other ↔ Mentions word name) : ofName other = ofName name := by
  simp only [ofName_eq, same]

/-- How a name tells its kind. -/
structure ToldByWords (name : String) : Prop where
  read : ofName name = .read ↔ Mentions "read" name
  write : ofName name = .write ↔ ofName name ≠ .read ∧ Mentions "write" name
  other : ofName name = .other ↔ ¬ Mentions "read" name ∧ ¬ Mentions "write" name
  /-- Capitals or small letters make no difference. -/
  anyCase : ∀ other, SameLetters other name → ofName other = ofName name
  /-- A character that is not ASCII is part of neither word, so each stands on one side of it. -/
  divided : ∀ (before : String) (c : Char) (after : String), 128 ≤ c.toNat →
    name = before ++ String.singleton c ++ after →
      (ofName name = .read ↔ ofName before = .read ∨ ofName after = .read) ∧
      (ofName name = .other ↔ ofName before = .other ∧ ofName after = .other)
  /-- Inside a longer name a read stays a read, -/
  readInside : ofName name = .read → ∀ before after, ofName (before ++ name ++ after) = .read
  /-- and a write stays a write unless it becomes a read. -/
  writeInside : ofName name = .write → ∀ before after,
    ofName (before ++ name ++ after) = .read ∨ ofName (before ++ name ++ after) = .write

/-- The kind of a command is told by the words in its name. -/
theorem told_by_words (name : String) : ToldByWords name := by
  have read_ascii : "read".toList.all (·.toNat < 128) = true := by decide
  have write_ascii : "write".toList.all (·.toNat < 128) = true := by decide
  refine ⟨ofName_eq_read_iff, ?_, ofName_eq_other_iff, ?_, ?_, ?_, ?_⟩
  · rw [ofName_eq_write_iff, Ne, ofName_eq_read_iff]
  · intro other same
    exact ofName_congr fun word => Mentions.congr same
  · rintro before c after foreign rfl
    simp only [ofName_eq_read_iff, ofName_eq_other_iff, mentions_divided_iff read_ascii foreign,
      mentions_divided_iff write_ascii foreign, not_or, true_and]
    exact and_and_and_comm
  · intro read before after
    exact ofName_eq_read_iff.2 ((ofName_eq_read_iff.1 read).embed before after)
  · intro write before after
    have still := (ofName_eq_write_iff.1 write).2.embed before after
    by_cases read : Mentions "read" (before ++ name ++ after)
    · exact .inl (ofName_eq_read_iff.2 read)
    · exact .inr (ofName_eq_write_iff.2 ⟨read, still⟩)

end AccessKind

end GatedMemory
