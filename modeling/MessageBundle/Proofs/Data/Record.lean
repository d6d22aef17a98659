import Mathlib.Data.List.Perm.Basic
import Mathlib.Data.List.Forall2
import MessageBundle.Data.Reading

/-!
# Records and the data they are read from

A record is read from a map, whose members may stand in any order and may include some that
belong to no field, or from a list of its fields. This file says from which data exactly. The
form of a field tells the names it goes by, the data that stand for its value, and whether its
value is the one that it has when it is left out. A map is then a record when its members, in
some order, give the fields and what is left is unknown; a list is one when it gives the
fields in their order, up to some at the end.

Fields are read one at a time: what the members of a map tell about the first field is told by
those with its names alone, and the other members tell about the other fields.

## Main definitions

* `FieldForm` — how a field may be written
* `Gives`, `IsRecord` — members that give fields, and data that stand for a record
* `FieldForm.Fits`, `Fit` — a form, and forms in a row, that say what fields are read as
* `Medium.IsStrict` — lists that are too long for a record are refused

## Main results

* `fillSlots_cons_eq_ok_iff`, `readMembers_cons_eq_ok_iff` — the first field apart from the
  others, in reading
* `isMembers_cons_iff` — the same for members that make up a record
* `readRecord_eq_ok_iff` — a record is read exactly from the data that stand for it
-/

namespace MessageBundle

variable {φ : Type}

/-- How a field with some value may be written. -/
structure FieldForm (φ : Type) where
  /-- The names under which it may be given. -/
  names : List String
  /-- The data that stand for its value. -/
  IsWritten : Data φ → Prop
  /-- Its value is the one that it has when it is left out. -/
  isDefault : Prop

namespace FieldForm

/-- A field that is always given. -/
def required (name : String) (IsWritten : Data φ → Prop) : FieldForm φ := ⟨[name], IsWritten, False⟩

/-- A field that may be left out if it has its default. -/
def defaulted (names : List String) (IsWritten : Data φ → Prop) (isDefault : Prop) : FieldForm φ :=
  ⟨names, IsWritten, isDefault⟩

end FieldForm

/-- Members that give fields, in the order of the fields: each under one of its names, or not at
all if it has its default. -/
inductive Gives : List (FieldForm φ) → List (String × Data φ) → Prop
  | nil : Gives [] []
  | given {form : FieldForm φ} {forms : List (FieldForm φ)} {key : String} {d : Data φ}
      {members : List (String × Data φ)} (named : key ∈ form.names) (written : form.IsWritten d)
      (rest : Gives forms members) : Gives (form :: forms) ((key, d) :: members)
  | leftOut {form : FieldForm φ} {forms : List (FieldForm φ)} {members : List (String × Data φ)}
      (default : form.isDefault) (rest : Gives forms members) : Gives (form :: forms) members

/-- The members, in some order, give the fields, and those that are left have names of no
field and can be passed over. -/
def IsMembers (medium : Medium φ) (forms : List (FieldForm φ)) (members : List (String × Data φ)) :
    Prop :=
  ∃ own unknown, Gives forms own ∧
    (∀ member ∈ unknown, (∀ form ∈ forms, member.1 ∉ form.names) ∧
      medium.skip member.2 = .ok ()) ∧
    members.Perm (own ++ unknown)

/-- Data that stand for a record: a map of its fields, in any order and with unknown members
among them, or a list of its fields in their order, of which those at the end may be left out
if they have their defaults. -/
inductive IsRecord (medium : Medium φ) (forms : List (FieldForm φ)) : Data φ → Prop
  | map {members : List (String × Data φ)} (fields : IsMembers medium forms members) :
      IsRecord medium forms (.ofMembers members)
  | list {items : List (Data φ)} (given leftOut : List (FieldForm φ))
      (fields : forms = given ++ leftOut)
      (written : List.Forall₂ FieldForm.IsWritten given items)
      (defaults : ∀ form ∈ leftOut, form.isDefault) : IsRecord medium forms (.ofList items)

/-- No name belongs to two fields. -/
def HasDistinctNames (forms : List (FieldForm φ)) : Prop := (forms.flatMap FieldForm.names).Nodup

/-- A list that is too long for its record is refused. -/
def Medium.IsStrict (medium : Medium φ) : Prop := ∀ length, (medium.surplus length).isSome

/-- What a field is read as when it has a value: its form tells the names it answers to, what
its value is read from, and whether it may be absent. -/
structure FieldForm.Fits (form : FieldForm φ) (f : Field φ) (value : f.type) : Prop where
  names : form.names = f.name :: f.aliases
  written : ∀ d, f.read d = .ok value ↔ form.IsWritten d
  default : f.absent = some value ↔ form.isDefault

/-- Forms that fit the fields of a record, one by one. -/
inductive Fit : (fs : List (Field φ)) → Values fs → List (FieldForm φ) → Prop
  | nil : Fit [] () []
  | cons {f : Field φ} {fs : List (Field φ)} {value : f.type} {values : Values fs}
      {form : FieldForm φ} {forms : List (FieldForm φ)} (first : form.Fits f value)
      (rest : Fit fs values forms) : Fit (f :: fs) (value, values) (form :: forms)

/-! ### Results of reading -/

theorem bind_eq_ok_iff {ε α β : Type} {x : Except ε α} {f : α → Except ε β} {b : β} :
    (x >>= f) = .ok b ↔ ∃ a, x = .ok a ∧ f a = .ok b := by
  cases x with
  | error cause => simp [bind, Except.bind]
  | ok a => simp [bind, Except.bind]

theorem pure_eq_ok_iff {ε α : Type} {a b : α} : (pure a : Except ε α) = .ok b ↔ b = a := by
  simp only [pure, Except.pure, Except.ok.injEq, eq_comm]

/-- A value put in front of what is read. -/
theorem bind_pair_eq_ok_iff {ε α β : Type} {x : Except ε β} {a a' : α} {b : β} :
    (x >>= fun b' => pure (a, b')) = .ok (a', b) ↔ a = a' ∧ x = .ok b := by
  cases x <;> simp [bind, Except.bind, pure, Except.pure]

theorem checkCut_eq_ok_iff {cut : Option φ} : Data.checkCut cut = .ok () ↔ cut = none := by
  cases cut <;> simp [Data.checkCut]

theorem reject_ne_ok {α : Type} {expected : Expected} {d : Data φ} {a : α} :
    Data.reject expected d ≠ .ok a := by
  rw [Data.reject, Ne, bind_eq_ok_iff]
  rintro ⟨found, -, hfound⟩
  cases hfound

/-! ### Members of a map, one field apart from the others -/

/-- Members with readable keys, as a map has them. -/
def keyed (members : List (String × Data φ)) : List (Except φ String × Data φ) :=
  members.map fun member => (.ok member.1, member.2)

section Reading

variable {medium : Medium φ} {f : Field φ} {fs : List (Field φ)} {slot slot' : Option f.type}
  {rest rest' : Slots fs} {members : List (String × Data φ)}

/-- What the members with the names of a field make of its slot: it stays as it is if there are
none, and it is filled by one if it is empty. -/
def Fills (f : Field φ) (members : List (String × Data φ)) (slot slot' : Option f.type) : Prop :=
  members = [] ∧ slot' = slot ∨
    slot = none ∧ ∃ member value, members = [member] ∧ f.read member.2 = .ok value ∧
      slot' = some value

theorem fillSlot_of_answers {key : String} {d : Data φ} {slots : Slots (f :: fs)}
    (h : f.answersTo key = true) :
    Data.fillSlot medium key d (f :: fs) (slot, rest) = .ok slots ↔
      slot = none ∧ ∃ value, f.read d = .ok value ∧ slots = (some value, rest) := by
  cases slot with
  | none => simp only [Data.fillSlot, if_pos h, bind_eq_ok_iff, pure_eq_ok_iff, true_and]
  | some value => simp [Data.fillSlot, h]

theorem fillSlot_of_not_answers {key : String} {d : Data φ} {slots : Slots (f :: fs)}
    (h : f.answersTo key = false) :
    Data.fillSlot medium key d (f :: fs) (slot, rest) = .ok slots ↔
      ∃ rest', Data.fillSlot medium key d fs rest = .ok rest' ∧ slots = (slot, rest') := by
  simp only [Data.fillSlot, h, Bool.false_eq_true, if_false, bind_eq_ok_iff, pure_eq_ok_iff]

theorem fillSlots_keyed_cons {slots : Slots fs} (member : String × Data φ)
    (members : List (String × Data φ)) :
    Data.fillSlots medium fs (keyed (member :: members)) slots =
      Data.fillSlot medium member.1 member.2 fs slots >>=
        Data.fillSlots medium fs (keyed members) := rfl

/-- Without fields, all members are passed over. -/
theorem fillSlots_nil_eq_ok_iff :
    Data.fillSlots medium [] (keyed members) () = .ok () ↔
      ∀ member ∈ members, medium.skip member.2 = .ok () := by
  induction members with
  | nil => simp [keyed, Data.fillSlots]
  | cons member members ih =>
    rw [fillSlots_keyed_cons, bind_eq_ok_iff, List.forall_mem_cons, ← ih]
    simp only [Data.fillSlot, bind_eq_ok_iff, pure_eq_ok_iff]
    constructor
    · rintro ⟨_, ⟨_, hskip, -⟩, hrest⟩
      exact ⟨hskip, hrest⟩
    · rintro ⟨hskip, hrest⟩
      exact ⟨(), ⟨(), hskip, trivial⟩, hrest⟩

/-- The members with the names of the first field fill its slot, and the other members fill the
slots of the other fields. -/
theorem fillSlots_cons_eq_ok_iff :
    Data.fillSlots medium (f :: fs) (keyed members) (slot, rest) = .ok (slot', rest') ↔
      Fills f (members.filter fun member => f.answersTo member.1) slot slot' ∧
        Data.fillSlots medium fs (keyed (members.filter fun member => !f.answersTo member.1))
          rest = .ok rest' := by
  induction members generalizing slot rest with
  | nil => simp [keyed, Data.fillSlots, Fills, eq_comm]
  | cons member members ih =>
    rw [fillSlots_keyed_cons, bind_eq_ok_iff]
    by_cases hanswers : f.answersTo member.1 = true
    · -- the member fills the slot, and no further one may
      simp only [fillSlot_of_answers hanswers, List.filter_cons, hanswers]
      constructor
      · rintro ⟨_, ⟨rfl, value, hvalue, rfl⟩, hrest⟩
        obtain ⟨⟨hnone, hslot⟩ | ⟨hempty, -⟩, hothers⟩ := ih.mp hrest
        · refine ⟨.inr ⟨rfl, member, value, ?_, hvalue, hslot⟩, by simpa using hothers⟩
          simp [hnone]
        · cases hempty
      · rintro ⟨⟨hnone, -⟩ | ⟨rfl, member', value, hsingle, hvalue, rfl⟩, hothers⟩
        · simp at hnone
        · obtain ⟨rfl, hnone⟩ : member = member' ∧
              members.filter (fun member => f.answersTo member.1) = [] := by
            simpa using hsingle
          exact ⟨_, ⟨rfl, value, hvalue, rfl⟩,
            ih.mpr ⟨.inl ⟨hnone, rfl⟩, by simpa using hothers⟩⟩
    · -- the member leaves the slot alone and is one of the others
      rw [Bool.not_eq_true] at hanswers
      simp only [fillSlot_of_not_answers hanswers, List.filter_cons, hanswers]
      constructor
      · rintro ⟨_, ⟨rest'', hmember, rfl⟩, hrest⟩
        obtain ⟨hslot, hothers⟩ := ih.mp hrest
        refine ⟨by simpa using hslot, ?_⟩
        rw [Bool.not_false, if_pos rfl, fillSlots_keyed_cons, bind_eq_ok_iff]
        exact ⟨rest'', hmember, hothers⟩
      · rintro ⟨hslot, hothers⟩
        rw [Bool.not_false, if_pos rfl, fillSlots_keyed_cons, bind_eq_ok_iff] at hothers
        obtain ⟨rest'', hmember, hothers⟩ := hothers
        exact ⟨_, ⟨rest'', hmember, rfl⟩, ih.mpr ⟨by simpa using hslot, hothers⟩⟩

/-- A map of members read as a record. -/
def readMembers (medium : Medium φ) (fs : List (Field φ)) (members : List (String × Data φ)) :
    Reading φ (Values fs) :=
  Data.fillSlots medium fs (keyed members) (Data.emptySlots fs) >>= Data.complete fs

theorem complete_cons_eq_ok_iff {value : f.type} {values : Values fs} :
    Data.complete (f :: fs) (slot, rest) = .ok (value, values) ↔
      (slot = some value ∨ slot = none ∧ f.absent = some value) ∧
        Data.complete fs rest = .ok values := by
  cases slot with
  | some found =>
    rw [Data.complete, bind_pair_eq_ok_iff]
    simp
  | none =>
    cases habsent : f.absent with
    | some found =>
      rw [Data.complete.eq_def]
      simp only [habsent, bind_pair_eq_ok_iff]
      simp
    | none => simp [Data.complete, habsent]

/-- The first field is read from the members with its names: from the only one, or, if there is
none, as what it is when absent. The other fields are read from the other members. -/
theorem readMembers_cons_eq_ok_iff {value : f.type} {values : Values fs} :
    readMembers medium (f :: fs) members = .ok (value, values) ↔
      ((members.filter (fun member => f.answersTo member.1) = [] ∧ f.absent = some value) ∨
          ∃ member, members.filter (fun member => f.answersTo member.1) = [member] ∧
            f.read member.2 = .ok value) ∧
        readMembers medium fs (members.filter fun member => !f.answersTo member.1) =
          .ok values := by
  rw [readMembers, readMembers, bind_eq_ok_iff, bind_eq_ok_iff, Data.emptySlots]
  constructor
  · rintro ⟨⟨slot, rest⟩, hfill, hcomplete⟩
    obtain ⟨hslot, hrest⟩ := fillSlots_cons_eq_ok_iff.mp hfill
    obtain ⟨hvalue, hvalues⟩ := complete_cons_eq_ok_iff.mp hcomplete
    refine ⟨?_, rest, hrest, hvalues⟩
    rcases hslot with ⟨hnone, rfl⟩ | ⟨-, member, found, hsingle, hread, rfl⟩
    · exact .inl ⟨hnone, by simpa using hvalue⟩
    · obtain rfl : found = value := by simpa using hvalue
      exact .inr ⟨member, hsingle, hread⟩
  · rintro ⟨hvalue, rest, hrest, hvalues⟩
    rcases hvalue with ⟨hnone, habsent⟩ | ⟨member, hsingle, hread⟩
    · exact ⟨(none, rest), fillSlots_cons_eq_ok_iff.mpr ⟨.inl ⟨hnone, rfl⟩, hrest⟩,
        complete_cons_eq_ok_iff.mpr ⟨.inr ⟨rfl, habsent⟩, hvalues⟩⟩
    · exact ⟨(some value, rest),
        fillSlots_cons_eq_ok_iff.mpr ⟨.inr ⟨rfl, member, value, hsingle, hread, rfl⟩, hrest⟩,
        complete_cons_eq_ok_iff.mpr ⟨.inl rfl, hvalues⟩⟩

end Reading

/-! ### Members that make up a record, one field apart from the others -/

section Forms

variable {medium : Medium φ} {form : FieldForm φ} {forms : List (FieldForm φ)}
  {members own unknown : List (String × Data φ)}

theorem Gives.exists_named (h : Gives forms own) :
    ∀ member ∈ own, ∃ form ∈ forms, member.1 ∈ form.names := by
  induction h with
  | nil => simp
  | @given form forms key d members named written rest ih =>
    intro member hmember
    rcases List.mem_cons.mp hmember with rfl | hrest
    · exact ⟨form, List.mem_cons_self, named⟩
    · obtain ⟨other, hother, hnamed⟩ := ih member hrest
      exact ⟨other, List.mem_cons_of_mem _ hother, hnamed⟩
  | leftOut default rest ih =>
    intro member hmember
    obtain ⟨other, hother, hnamed⟩ := ih member hmember
    exact ⟨other, List.mem_cons_of_mem _ hother, hnamed⟩

theorem isMembers_nil_iff :
    IsMembers medium [] members ↔ ∀ member ∈ members, medium.skip member.2 = .ok () := by
  constructor
  · rintro ⟨own, unknown, hgives, hunknown, hperm⟩ member hmember
    cases hgives
    exact (hunknown member (hperm.mem_iff.mp hmember)).2
  · intro hskip
    refine ⟨[], members, .nil, fun member hmember => ⟨?_, hskip member hmember⟩, .refl _⟩
    exact fun form hform => absurd hform List.not_mem_nil

theorem HasDistinctNames.notMem (h : HasDistinctNames (form :: forms)) {other : FieldForm φ}
    (hother : other ∈ forms) {key : String} (hkey : key ∈ other.names) : key ∉ form.names := by
  rw [HasDistinctNames, List.flatMap_cons, List.nodup_append] at h
  intro hmem
  exact h.2.2 key hmem key (List.mem_flatMap.mpr ⟨other, hother, hkey⟩) rfl

theorem HasDistinctNames.tail (h : HasDistinctNames (form :: forms)) : HasDistinctNames forms := by
  rw [HasDistinctNames, List.flatMap_cons, List.nodup_append] at h
  exact h.2.1

/-- The first field is given by the members with its names: by the only one, or not at all if it
has its default. The other fields are given by the other members. -/
theorem isMembers_cons_iff (hdistinct : HasDistinctNames (form :: forms)) :
    IsMembers medium (form :: forms) members ↔
      ((members.filter (fun member => decide (member.1 ∈ form.names)) = [] ∧ form.isDefault) ∨
          ∃ member, members.filter (fun member => decide (member.1 ∈ form.names)) = [member] ∧
            form.IsWritten member.2) ∧
        IsMembers medium forms
          (members.filter fun member => !decide (member.1 ∈ form.names)) := by
  set named : String × Data φ → Bool := fun member => decide (member.1 ∈ form.names) with hnamed
  constructor
  · rintro ⟨own, unknown, hgives, hunknown, hperm⟩
    -- the members of the other fields and the unknown ones have other names, so that nothing but
    -- the member of the first field is moved by the filters
    have hothers : ∀ rest, Gives forms rest →
        (rest ++ unknown).filter named = [] ∧
          ((rest ++ unknown).filter fun member => !named member) = rest ++ unknown := by
      intro rest hrest
      have hfree : ∀ member ∈ rest ++ unknown, named member = false := by
        intro member hmember
        rw [hnamed, decide_eq_false_iff_not]
        rcases List.mem_append.mp hmember with hown | hleft
        · obtain ⟨other, hother, hkey⟩ := hrest.exists_named member hown
          exact hdistinct.notMem hother hkey
        · exact (hunknown member hleft).1 form List.mem_cons_self
      constructor
      · rw [List.filter_eq_nil_iff]
        intro member hmember
        simp [hfree member hmember]
      · rw [List.filter_eq_self]
        intro member hmember
        simp [hfree member hmember]
    have hleft : ∀ member ∈ unknown, (∀ other ∈ forms, member.1 ∉ other.names) ∧
        medium.skip member.2 = .ok () := fun member hmember =>
      ⟨fun other hother => (hunknown member hmember).1 other (List.mem_cons_of_mem _ hother),
        (hunknown member hmember).2⟩
    have hfirst := hperm.filter named
    have hrest := hperm.filter fun member => !named member
    cases hgives with
    | @given _ _ key d rest inNames written gives =>
      obtain ⟨hnone, hall⟩ := hothers rest gives
      have hkey : named (key, d) = true := by simpa [hnamed] using inNames
      rw [List.cons_append, List.filter_cons_of_pos hkey, hnone] at hfirst
      rw [List.cons_append, List.filter_cons_of_neg (by simp [hkey]), hall] at hrest
      exact ⟨.inr ⟨(key, d), List.perm_singleton.mp hfirst, written⟩,
        rest, unknown, gives, hleft, hrest⟩
    | leftOut default gives =>
      obtain ⟨hnone, hall⟩ := hothers own gives
      rw [hnone] at hfirst
      rw [hall] at hrest
      exact ⟨.inl ⟨List.perm_nil.mp hfirst, default⟩, own, unknown, gives, hleft, hrest⟩
  · rintro ⟨hfirst, own, unknown, hgives, hunknown, hperm⟩
    have hleft : ∀ member ∈ unknown, (∀ other ∈ form :: forms, member.1 ∉ other.names) ∧
        medium.skip member.2 = .ok () := by
      intro member hmember
      refine ⟨List.forall_mem_cons.mpr ⟨?_, (hunknown member hmember).1⟩,
        (hunknown member hmember).2⟩
      have hmem := hperm.mem_iff.mpr (List.mem_append_right own hmember)
      simpa [hnamed] using (List.mem_filter.mp hmem).2
    have hsplit := (List.filter_append_perm named members).symm
    rcases hfirst with ⟨hnone, hdefault⟩ | ⟨⟨key, d⟩, hsingle, hwritten⟩
    · rw [hnone] at hsplit
      exact ⟨own, unknown, .leftOut hdefault hgives, hleft, hsplit.trans hperm⟩
    · have hkey : key ∈ form.names := by
        have hmem : (key, d) ∈ members.filter named := hsingle ▸ List.mem_singleton_self _
        simpa [hnamed] using (List.mem_filter.mp hmem).2
      rw [hsingle] at hsplit
      exact ⟨(key, d) :: own, unknown, .given hkey hwritten hgives, hleft,
        hsplit.trans (hperm.cons (key, d))⟩

end Forms

/-! ### Records -/

section Record

variable {medium : Medium φ} {fs : List (Field φ)} {values : Values fs}
  {forms : List (FieldForm φ)}

theorem FieldForm.Fits.answersTo_eq {form : FieldForm φ} {f : Field φ} {value : f.type}
    (h : form.Fits f value) (key : String) : f.answersTo key = decide (key ∈ form.names) := by
  rw [h.names, Bool.eq_iff_iff]
  simp [Field.answersTo]

/-- Members are read as a record exactly when they make it up. -/
theorem readMembers_eq_ok_iff (hfit : Fit fs values forms) (hdistinct : HasDistinctNames forms)
    {members : List (String × Data φ)} :
    readMembers medium fs members = .ok values ↔ IsMembers medium forms members := by
  induction hfit generalizing members with
  | nil =>
    rw [isMembers_nil_iff, ← fillSlots_nil_eq_ok_iff, readMembers, bind_eq_ok_iff]
    exact ⟨fun ⟨_, hfill, _⟩ => hfill, fun hfill => ⟨(), hfill, rfl⟩⟩
  | @cons f fs value values form forms first rest ih =>
    rw [readMembers_cons_eq_ok_iff, isMembers_cons_iff hdistinct, ih hdistinct.tail, first.default]
    simp only [first.answersTo_eq, first.written]

theorem readPositions_cons_eq_ok_iff {f : Field φ} {value : f.type} {tooFew : Misfit}
    {item : Data φ} {items : List (Data φ)} :
    Data.readPositions none tooFew (f :: fs) (item :: items) = .ok ((value, values), []) ↔
      f.read item = .ok value ∧ Data.readPositions none tooFew fs items = .ok (values, []) := by
  rw [Data.readPositions, bind_eq_ok_iff]
  constructor
  · rintro ⟨found, hfound, hrest⟩
    obtain ⟨⟨others, left⟩, hothers, hpair⟩ := bind_eq_ok_iff.mp hrest
    rw [pure_eq_ok_iff] at hpair
    cases hpair
    exact ⟨hfound, hothers⟩
  · rintro ⟨hvalue, hrest⟩
    rw [hrest]
    exact ⟨value, hvalue, rfl⟩

/-- Behind the end of a list, all fields are what they are when absent. -/
theorem readPositions_nil_eq_ok_iff (hfit : Fit fs values forms) {tooFew : Misfit} :
    Data.readPositions none tooFew fs [] = .ok (values, []) ↔ ∀ form ∈ forms, form.isDefault := by
  induction hfit with
  | nil => simp [Data.readPositions]
  | @cons f fs value values form forms first rest ih =>
    rw [List.forall_mem_cons, ← ih, ← first.default, Data.readPositions.eq_def]
    cases habsent : f.absent with
    | none => simp [habsent, Data.checkCut, bind, Except.bind]
    | some found =>
      simp only [habsent, Option.some.injEq]
      constructor
      · intro hread
        obtain ⟨⟨⟩, -, hrest⟩ := bind_eq_ok_iff.mp hread
        obtain ⟨⟨others, left⟩, hothers, hpair⟩ := bind_eq_ok_iff.mp hrest
        rw [pure_eq_ok_iff] at hpair
        cases hpair
        exact ⟨rfl, hothers⟩
      · rintro ⟨rfl, hothers⟩
        refine bind_eq_ok_iff.mpr ⟨(), rfl, ?_⟩
        exact bind_eq_ok_iff.mpr ⟨(values, []), hothers, rfl⟩

/-- A list is read as the fields in their order, and those behind its end as what they are when
absent. -/
theorem readPositions_eq_ok_iff (hfit : Fit fs values forms) {tooFew : Misfit}
    {items : List (Data φ)} :
    Data.readPositions none tooFew fs items = .ok (values, []) ↔
      ∃ given leftOut, forms = given ++ leftOut ∧
        List.Forall₂ FieldForm.IsWritten given items ∧ ∀ form ∈ leftOut, form.isDefault := by
  -- on the fields; whatever the list ends with, it is told by the fields that are left then
  induction hfit generalizing items with
  | nil =>
    cases items with
    | nil => simp [Data.readPositions]
    | cons item items => simp [Data.readPositions]
  | @cons f fs value values form forms first rest ih =>
    cases items with
    | nil =>
      rw [readPositions_nil_eq_ok_iff (.cons first rest)]
      simp
    | cons item items =>
      rw [readPositions_cons_eq_ok_iff, first.written, ih]
      constructor
      · rintro ⟨hwritten, given, leftOut, rfl, hgiven, hdefaults⟩
        exact ⟨form :: given, leftOut, rfl, .cons hwritten hgiven, hdefaults⟩
      · rintro ⟨given, leftOut, hforms, hgiven, hdefaults⟩
        cases hgiven with
        | @cons _ _ given _ hwritten hgiven =>
          obtain ⟨rfl, rfl⟩ := List.cons.inj hforms
          exact ⟨hwritten, given, leftOut, rfl, hgiven, hdefaults⟩

/-- What is read from a map is read from members with readable keys. -/
theorem exists_members_of_fillSlots {members : List (Except φ String × Data φ)}
    {slots slots' : Slots fs} (h : Data.fillSlots medium fs members slots = .ok slots') :
    ∃ readable, members = keyed readable := by
  induction members generalizing slots with
  | nil => exact ⟨[], rfl⟩
  | cons member members ih =>
    obtain ⟨key, d⟩ := member
    obtain ⟨name, hname, hrest⟩ := bind_eq_ok_iff.mp h
    obtain ⟨slots'', -, hmembers⟩ := bind_eq_ok_iff.mp hrest
    obtain ⟨readable, rfl⟩ := ih hmembers
    cases key with
    | error why => cases hname
    | ok key => exact ⟨(key, d) :: readable, rfl⟩

/-- A record is read exactly from the data that stand for it. -/
theorem readRecord_eq_ok_iff (hstrict : medium.IsStrict) (hfit : Fit fs values forms)
    (hdistinct : HasDistinctNames forms) {name : String} {d : Data φ} :
    d.readRecord medium name fs = .ok values ↔ IsRecord medium forms d := by
  constructor
  · intro hread
    cases d with
    | map members cut =>
      obtain ⟨slots, hfill, hrest⟩ := bind_eq_ok_iff.mp hread
      obtain ⟨⟨⟩, hcut, hcomplete⟩ := bind_eq_ok_iff.mp hrest
      obtain rfl := checkCut_eq_ok_iff.mp hcut
      obtain ⟨readable, rfl⟩ := exists_members_of_fillSlots hfill
      refine .map ((readMembers_eq_ok_iff hfit hdistinct).mp ?_)
      exact bind_eq_ok_iff.mpr ⟨slots, hfill, hcomplete⟩
    | list items cut =>
      obtain ⟨⟨found, left⟩, hpositions, hrest⟩ := bind_eq_ok_iff.mp hread
      cases left with
      | nil =>
        obtain ⟨⟨⟩, hcut, hvalues⟩ := bind_eq_ok_iff.mp hrest
        obtain rfl := checkCut_eq_ok_iff.mp hcut
        cases hvalues
        obtain ⟨given, leftOut, hforms, hgiven, hdefaults⟩ :=
          (readPositions_eq_ok_iff hfit).mp hpositions
        exact .list given leftOut hforms hgiven hdefaults
      | cons item left =>
        -- more items than fields, of which the medium makes a report
        obtain ⟨report, hreport⟩ := Option.isSome_iff_exists.mp (hstrict items.length)
        simp only [hreport] at hrest
        cases hrest
    | _ => exact absurd hread reject_ne_ok
  · intro hrecord
    cases hrecord with
    | map fields =>
      obtain ⟨slots, hfill, hcomplete⟩ :=
        bind_eq_ok_iff.mp ((readMembers_eq_ok_iff hfit hdistinct).mpr fields)
      exact bind_eq_ok_iff.mpr ⟨slots, hfill, hcomplete⟩
    | @list items given leftOut hforms written defaults =>
      have hpositions : ∀ tooFew, Data.readPositions none tooFew fs items = .ok (values, []) :=
        fun _ => (readPositions_eq_ok_iff hfit).mpr ⟨given, leftOut, hforms, written, defaults⟩
      exact bind_eq_ok_iff.mpr ⟨_, hpositions _, rfl⟩

end Record

end MessageBundle
