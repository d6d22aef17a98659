import Mathlib
import MessageBundle.Manifest.Loading
import MessageBundle.Proofs.Round.Literal

/-!
# The codes of messages

The code of a message is what its literal starts with: the project code of its bundle and
then its number. A round makes sure that no two of its messages have one number. That is
not the same as no two having one code, since nothing marks where the project code ends:
`A` before `11` and `A1` before `1` are one text. This is also the only way in which two
codes of a round agree. The numbers being different, one project code is the other one
with more behind it, and what is more stands at the front of a number.

## Main definitions

* `Message`, `Message.code` — a message of a bundle, and its code
* `Message.ContinuesInto` — a project code goes on with the front of a number

## Main results

* `code_eq_iff` — messages with two numbers and one code
* `codes_agree_iff` — the codes of a rendered round, and where they are written
* `codes_collide` — a round that is rendered with one code twice
-/

namespace MessageBundle

/-- A message as it is written: with the project code of its bundle. -/
structure Message where
  projectCode : String
  id : MessageId
  template : String

namespace Message

/-- The text in front of a message by which it is known: the project code and the number. -/
def code (m : Message) : String := m.projectCode ++ m.id.display

/-- The body of the literal of a message: its code, a space and the template, escaped. -/
def literal (m : Message) : String := Template.escape (m.code ++ " " ++ m.template)

/-- The project code of `b` is the one of `a` and more, and what is more stands at the front
of the number of `a`, before the number of `b`. -/
def ContinuesInto (a b : Message) : Prop :=
  ∃ more, more ≠ "" ∧ b.projectCode = a.projectCode ++ more ∧ a.id.display = more ++ b.id.display

end Message

/-- The messages of a bundle, in the order of their methods. -/
def Bundle.messages (b : Bundle) : List Message :=
  b.methods.filterMap fun m => m.registration?.map fun entry => ⟨b.projectCode, entry.1, entry.2⟩

/-- The messages of all bundles, in their order. -/
def messages (interfaces : List Interface) : List Message :=
  (collect interfaces).flatMap Bundle.messages

/-! ### When codes agree -/

theorem display_injective : Function.Injective MessageId.display := by
  intro id id' hdisplay
  rw [MessageId.display, MessageId.display, Int.toString_eq_repr, Int.toString_eq_repr] at hdisplay
  exact Int32.toInt_inj.mp (Int.repr_inj.mp hdisplay)

namespace Message

variable {a b : Message}

/-- Messages with two numbers have one code when one project code goes on with the front of
the other message's number, and else not. -/
theorem code_eq_iff (h : a.id ≠ b.id) :
    a.code = b.code ↔ a.ContinuesInto b ∨ b.ContinuesInto a := by
  -- with nothing more in between, the numbers would have one decimal text
  have hmore : ∀ {more},
      a.id.display = more ++ b.id.display ∨ b.id.display = more ++ a.id.display → more ≠ "" := by
    rintro more (hid | hid) rfl
    · rw [String.empty_append] at hid
      exact h (display_injective hid)
    · rw [String.empty_append] at hid
      exact h (display_injective hid).symm
  rw [code, code, Text.append_eq_append_iff]
  constructor
  · rintro (⟨more, hcode, hid⟩ | ⟨more, hcode, hid⟩)
    · exact .inl ⟨more, hmore (.inl hid), hcode, hid⟩
    · exact .inr ⟨more, hmore (.inr hid), hcode, hid⟩
  · rintro (⟨more, -, hcode, hid⟩ | ⟨more, -, hcode, hid⟩)
    · exact .inl ⟨more, hcode, hid⟩
    · exact .inr ⟨more, hcode, hid⟩

/-- Behind one project code, messages with two numbers have two codes. -/
theorem code_ne_of_projectCode_eq (h : a.id ≠ b.id) (hcode : a.projectCode = b.projectCode) :
    a.code ≠ b.code := by
  intro hsame
  rw [code, code, hcode, String.append_right_inj] at hsame
  exact h (display_injective hsame)

end Message

/-! ### The messages of a rendered round -/

variable {config : Config} {interfaces : List Interface} {sources : List Source}

/-- The messages of a round have the numbers that its checks ask for. -/
theorem ids_messages (interfaces : List Interface) :
    (messages interfaces).map Message.id = (bundled interfaces).flatMap Interface.numbers := by
  have hbundle : ∀ b : Bundle, b.messages.map Message.id = b.methods.filterMap Method.number? := by
    intro b
    rw [Bundle.messages, List.map_filterMap]
    refine List.filterMap_congr fun m _ => ?_
    rw [Method.number?, Option.map_map]
    rfl
  have hnumbers : (collect interfaces).map (fun b => b.methods.filterMap Method.number?) =
      (bundled interfaces).map Interface.numbers := map_collect_eq fun i b => numbers_toBundle?
  rw [messages, List.map_flatMap, List.flatMap_congr fun b _ => hbundle b, List.flatMap_def,
    hnumbers]
  rfl

/-- A method is written with the literal of its message. -/
theorem literal?_of_isResolvedBy {m : Method} {resolved : ResolvedMethod}
    (h : m.IsResolvedBy resolved) (projectCode : String) :
    resolved.resolution.literal? projectCode =
      (m.registration?.map fun entry => ⟨projectCode, entry.1, entry.2⟩).map Message.literal := by
  rw [Resolution.literal?, h.2.registration?_eq, Option.map_map]
  rfl

/-- A bundle is written with the literals of its messages. -/
theorem Bundle.literals_eq {b : Bundle} {methods : List ResolvedMethod}
    (h : List.Forall₂ Method.IsResolvedBy b.methods methods) :
    b.literals methods = b.messages.map Message.literal := by
  rw [Bundle.literals, Bundle.messages, List.map_filterMap]
  -- method by method; the project code is that of the bundle all along
  generalize b.methods = declared at h
  induction h with
  | nil => rfl
  | cons hfirst _ ih =>
    rw [List.filterMap_cons, List.filterMap_cons, literal?_of_isResolvedBy hfirst, ih]

/-- In a rendered round no two messages have one number, and two have one code exactly when
one of their project codes goes on with the front of the other one's number; so two of one
project code never do. The units are written with the literals of the messages, each of
which starts with the code of its message. -/
theorem codes_agree_iff (h : render config interfaces = .ok sources) :
    ((messages interfaces).Pairwise fun a b => a.id ≠ b.id ∧
        (a.code = b.code ↔ a.ContinuesInto b ∨ b.ContinuesInto a) ∧
        (a.projectCode = b.projectCode → a.code ≠ b.code)) ∧
      List.Forall₂ (fun i source => ∃ b methods, i.toBundle? = some b ∧
          source = b.render config methods ∧
          b.literals methods = b.messages.map Message.literal ∧
          ∀ m ∈ b.messages, (JavaClass.quoted m.literal).toList <:+: source.contents.toList)
        (bundled interfaces) sources := by
  constructor
  · -- the numbers are what the round has checked, and the codes follow from them
    have hids := (acceptable_of_render h).numbers
    rw [← ids_messages, List.Nodup, List.pairwise_map] at hids
    refine hids.imp fun hne => ?_
    exact ⟨hne, Message.code_eq_iff hne, Message.code_ne_of_projectCode_eq hne⟩
  · refine (forall₂_isRenderedAs h).imp ?_
    rintro i source ⟨b, methods, hb, hmethods, rfl⟩
    rw [← methods_toBundle? hb] at hmethods
    have hliterals := b.literals_eq hmethods
    refine ⟨b, methods, hb, rfl, hliterals, fun m hm => literal_written ?_⟩
    rw [hliterals]
    exact List.mem_map_of_mem hm

/-- An interface with one message. -/
def oneMessage (name projectCode : String) (id : MessageId) : Interface :=
  { name
    projectCode := some projectCode
    methods := [{ name := "m", returnType := "String", message := some ⟨id, "x"⟩ }] }

/-- The messages of two bundles with one project code have two codes. -/
theorem codes_of_one_project :
    (messages [oneMessage "a.A" "A" 11, oneMessage "a.B" "A" 1]).Pairwise
      fun a b => a.code ≠ b.code := by
  have hrender : ∃ sources, render {} [oneMessage "a.A" "A" 11, oneMessage "a.B" "A" 1] =
      .ok sources := ⟨_, rfl⟩
  obtain ⟨sources, hrender⟩ := hrender
  refine (codes_agree_iff hrender).1.imp_of_mem fun {a b} ha hb hcodes => ?_
  have hcode : ∀ m ∈ messages [oneMessage "a.A" "A" 11, oneMessage "a.B" "A" 1],
      m.projectCode = "A" := by decide
  exact hcodes.2.2 ((hcode a ha).trans (hcode b hb).symm)

/-- Two bundles are let through with a number each, and both messages have one code. -/
theorem codes_collide :
    Manifest.validate ⟨{}, [oneMessage "a.A" "A" 11, oneMessage "a.B" "A1" 1]⟩ = .ok () ∧
      (∃ sources, render {} [oneMessage "a.A" "A" 11, oneMessage "a.B" "A1" 1] = .ok sources) ∧
      (messages [oneMessage "a.A" "A" 11, oneMessage "a.B" "A1" 1]).map Message.code =
        ["A11", "A11"] := by
  refine ⟨by decide, ⟨_, rfl⟩, by decide⟩

end MessageBundle
