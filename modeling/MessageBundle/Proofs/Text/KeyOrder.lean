import Mathlib.Data.String.Basic
import Mathlib.Tactic.SplitIfs
import MessageBundle.Text.KeyOrder

/-!
# Keys in the order of their bytes

Entries are put in by comparing the characters of their keys. The bytes of the keys stand
in the same order. The number of a character is cut into groups of six bits, the first
group goes into a byte that tells how many follow, and greater numbers never get a smaller
first byte. So two characters are told apart at the first byte in which their bytes differ,
and in the direction of their numbers.

## Main definitions

* `bytes` — the bytes of a text
* `Ascending` — entries with strictly ascending keys

## Main results

* `bytes_lt_of_lt` — texts in order have their bytes in order
* `Ascending.insertByKey` — an entry with a new key leaves the keys ascending
* `Ascending.mem_iff` — with ascending keys, what is listed is what is found
-/

namespace MessageBundle.Text

/-- The bytes of a text, as it is encoded. -/
def bytes (text : String) : List UInt8 := text.toByteArray.data.toList

theorem bytes_eq (text : String) : bytes text = text.toList.flatMap String.utf8EncodeChar := by
  have h : text.toByteArray = text.toList.utf8Encode := by
    rw [← String.toByteArray_ofList, String.ofList_toList]
  rw [bytes, h, List.utf8Encode, List.toList_data_toByteArray]

/-! ### The bytes of a character -/

/-- A number in `k` groups of six bits behind a first byte, which carries the rest of it
and a mark. -/
def sixBitGroups (mark : Nat) : Nat → Nat → List UInt8
  | 0, n => [UInt8.ofNat (n + mark)]
  | k + 1, n => sixBitGroups mark k (n / 64) ++ [UInt8.ofNat (n % 64 + 128)]

/-- How many groups follow the first byte of a character. -/
def groupCount (n : Nat) : Nat :=
  if n ≤ 0x7f then 0 else if n ≤ 0x7ff then 1 else if n ≤ 0xffff then 2 else 3

/-- What is added to a first byte to tell how many groups follow. -/
def groupMark : Nat → Nat
  | 0 => 0
  | 1 => 0xc0
  | 2 => 0xe0
  | _ => 0xf0

theorem char_toNat_lt (c : Char) : c.val.toNat < 0x110000 := by
  have h := c.valid
  rw [UInt32.isValidChar, Nat.isValidChar] at h
  omega

theorem utf8EncodeChar_eq (c : Char) :
    String.utf8EncodeChar c =
      sixBitGroups (groupMark (groupCount c.val.toNat)) (groupCount c.val.toNat) c.val.toNat := by
  have hvalid := char_toNat_lt c
  unfold String.utf8EncodeChar groupCount
  generalize c.val.toNat = n at hvalid
  simp only
  -- the remainders in front of the first group take nothing away, by the size of the number
  split_ifs with hone htwo hthree
  · rfl
  · have hfirst : n / 64 % 32 = n / 64 := by omega
    rw [hfirst]
    rfl
  · have hfirst : n / 4096 % 16 = n / 64 / 64 := by omega
    rw [hfirst]
    rfl
  · have hfirst : n / 262144 % 8 = n / 64 / 64 / 64 := by omega
    have hsecond : n / 4096 % 64 = n / 64 / 64 % 64 := by omega
    rw [hfirst, hsecond]
    rfl

theorem ofNat_cons_lt {m n : Nat} (h : m < n) (hn : n < 256) (x y : List UInt8) :
    UInt8.ofNat m :: x < UInt8.ofNat n :: y := by
  rw [List.cons_lt_cons_iff, UInt8.lt_iff_toNat_lt, UInt8.toNat_ofNat', UInt8.toNat_ofNat']
  omega

/-- With equally many groups the smaller number comes first, whatever follows. -/
theorem sixBitGroups_append_lt {mark k m n : Nat} (h : m < n) (hfits : n / 64 ^ k + mark < 256)
    (x y : List UInt8) : sixBitGroups mark k m ++ x < sixBitGroups mark k n ++ y := by
  induction k generalizing m n x y with
  | zero =>
    rw [pow_zero, Nat.div_one] at hfits
    exact ofNat_cons_lt (Nat.add_lt_add_right h mark) hfits x y
  | succ k ih =>
    rw [sixBitGroups, sixBitGroups, List.append_assoc, List.append_assoc]
    -- the groups in front decide, and the last one where these are equal
    rcases Nat.lt_or_eq_of_le (Nat.div_le_div_right (c := 64) h.le) with hfront | hfront
    · rw [pow_succ', ← Nat.div_div_eq_div_mul] at hfits
      exact ih hfront hfits _ _
    · rw [hfront]
      exact List.append_left_lt (ofNat_cons_lt (by omega) (by omega) x y)

theorem sixBitGroups_eq_cons (mark k n : Nat) :
    ∃ rest, sixBitGroups mark k n = UInt8.ofNat (n / 64 ^ k + mark) :: rest := by
  induction k generalizing n with
  | zero => exact ⟨[], by rw [sixBitGroups, pow_zero, Nat.div_one]⟩
  | succ k ih =>
    obtain ⟨rest, hrest⟩ := ih (n / 64)
    refine ⟨rest ++ [UInt8.ofNat (n % 64 + 128)], ?_⟩
    rw [sixBitGroups, hrest, List.cons_append, Nat.div_div_eq_div_mul, ← pow_succ']

/-- The first byte of a character, as a number. -/
def firstByte (n : Nat) : Nat := n / 64 ^ groupCount n + groupMark (groupCount n)

theorem firstByte_lt {n : Nat} (h : n < 0x110000) : firstByte n < 256 := by
  unfold firstByte groupCount
  split_ifs <;> simp only [groupMark] <;> omega

/-- More groups come with a greater first byte. -/
theorem firstByte_lt_firstByte {m n : Nat} (h : m < n) (hne : groupCount m ≠ groupCount n) :
    firstByte m < firstByte n := by
  unfold firstByte groupCount at *
  split_ifs at * <;> simp only [groupMark] <;> omega

/-- The bytes of a smaller character come first, whatever follows. -/
theorem utf8EncodeChar_append_lt {c d : Char} (h : c < d) (x y : List UInt8) :
    String.utf8EncodeChar c ++ x < String.utf8EncodeChar d ++ y := by
  have hlt : c.val.toNat < d.val.toNat := h
  have hfits := firstByte_lt (char_toNat_lt d)
  rw [utf8EncodeChar_eq, utf8EncodeChar_eq]
  by_cases hcount : groupCount c.val.toNat = groupCount d.val.toNat
  · rw [hcount]
    exact sixBitGroups_append_lt hlt hfits x y
  · obtain ⟨rest, hrest⟩ := sixBitGroups_eq_cons (groupMark (groupCount c.val.toNat))
      (groupCount c.val.toNat) c.val.toNat
    obtain ⟨rest', hrest'⟩ := sixBitGroups_eq_cons (groupMark (groupCount d.val.toNat))
      (groupCount d.val.toNat) d.val.toNat
    rw [hrest, hrest']
    exact ofNat_cons_lt (firstByte_lt_firstByte hlt hcount) hfits _ _

/-! ### The bytes of a text -/

theorem flatMap_utf8EncodeChar_lt {s t : List Char} (h : s < t) :
    s.flatMap String.utf8EncodeChar < t.flatMap String.utf8EncodeChar := by
  induction h with
  | nil =>
    rw [List.flatMap_nil, List.flatMap_cons, utf8EncodeChar_eq]
    obtain ⟨rest, hrest⟩ := sixBitGroups_eq_cons _ _ _
    rw [hrest]
    exact .nil
  | rel hlt =>
    rw [List.flatMap_cons, List.flatMap_cons]
    exact utf8EncodeChar_append_lt hlt _ _
  | cons _ ih =>
    rw [List.flatMap_cons, List.flatMap_cons]
    exact List.append_left_lt ih

/-- Texts in the order of their characters are in the order of their bytes. -/
theorem bytes_lt_of_lt {s t : String} (h : s < t) : bytes s < bytes t := by
  rw [bytes_eq, bytes_eq]
  exact flatMap_utf8EncodeChar_lt h

/-! ### Entries with ascending keys -/

variable {α : Type} {key : String} {value : α} {entries : List (String × α)}

/-- Each key is before the keys of all later entries. -/
def Ascending (entries : List (String × α)) : Prop := entries.Pairwise fun a b => a.1 < b.1

/-- An entry with a new key leaves the keys ascending. -/
theorem Ascending.insertByKey (h : Ascending entries) (hfree : entries.lookup key = none)
    (value : α) : Ascending (insertByKey (key, value) entries) := by
  induction entries with
  | nil => exact List.pairwise_singleton _ _
  | cons head rest ih =>
    obtain ⟨hhead, hrest⟩ := List.pairwise_cons.mp h
    rw [List.lookup_cons] at hfree
    have hne : key ≠ head.1 := by
      rintro rfl
      rw [beq_self_eq_true] at hfree
      cases hfree
    rw [beq_false_of_ne hne] at hfree
    rw [Text.insertByKey]
    split_ifs with hbefore
    · refine .cons ?_ h
      rintro other (_ | ⟨_, hother⟩)
      · exact hbefore
      · exact hbefore.trans (hhead other hother)
    · refine .cons (fun other hother => ?_) (ih hrest hfree)
      have hafter : head.1 < key := lt_of_le_of_ne (not_lt.mp hbefore) hne.symm
      rcases List.mem_cons.mp ((insertByKey_perm _ rest).mem_iff.mp hother) with rfl | hmem
      · exact hafter
      · exact hhead other hmem

/-- With ascending keys, an entry is listed exactly when it is found under its key. -/
theorem Ascending.mem_iff (h : Ascending entries) :
    (key, value) ∈ entries ↔ entries.lookup key = some value := by
  induction entries with
  | nil => simp
  | cons head rest ih =>
    obtain ⟨hhead, hrest⟩ := List.pairwise_cons.mp h
    rcases head with ⟨first, contents⟩
    rw [List.mem_cons, List.lookup_cons, Prod.mk.injEq]
    by_cases hkey : key = first
    · subst hkey
      -- no later entry has the key of the first one
      have hlater : (key, value) ∉ rest := fun hmem => (hhead (key, value) hmem).false
      rw [beq_self_eq_true]
      simp [hlater, eq_comm]
    · rw [beq_false_of_ne hkey, ← ih hrest]
      simp [hkey]

end MessageBundle.Text
