import MessageBundle.Manifest.Loading
import MessageBundle.Proofs.JavaClass.Literal
import MessageBundle.Proofs.Round.Acceptance
import MessageBundle.Proofs.SourceText.Layout

/-!
# The literals of a round

The literal of a message is closed when its project code swallows no quote and its
template has no backslash that dangles. The second is checked for every message of a
round, the first is not. Whether the literals of a rendered round are closed is
therefore a matter of the project codes alone.

## Main definitions

* `Resolution.literal?`, `Bundle.literals` — the literals that a method and a bundle are
  written with

## Main results

* `literal_written` — the literals of a bundle stand between quotes in its unit
* `literals_closed_iff` — in a rendered round, a literal is closed exactly when the
  project code before it swallows no quote
-/

namespace MessageBundle

open SourceText

/-- The literal that a method is written with, if it has a message. -/
def Resolution.literal? (projectCode : String) (r : Resolution) : Option String :=
  r.registration?.map fun entry => JavaClass.messageLiteral projectCode entry.1 entry.2

/-- The literals that a bundle is written with. -/
def Bundle.literals (b : Bundle) (methods : List ResolvedMethod) : List String :=
  methods.filterMap fun resolved => resolved.resolution.literal? b.projectCode

/-! ### Where literals are written -/

theorem infix_append_left {xs : List Char} {a b : String} (h : xs <:+: a.toList) :
    xs <:+: (a ++ b).toList := by
  rw [String.toList_append]
  exact h.trans (List.prefix_append _ _).isInfix

theorem infix_append_right {xs : List Char} {a b : String} (h : xs <:+: b.toList) :
    xs <:+: (a ++ b).toList := by
  rw [String.toList_append]
  exact h.trans (List.suffix_append _ _).isInfix

theorem infix_atDepth {xs : List Char} {text : String} (h : xs <:+: text.toList) (depth : Nat) :
    xs <:+: (atDepth depth text).toList := by
  rw [atDepth]
  split_ifs with hempty
  · rw [← hempty]
    exact h
  · exact infix_append_right h

theorem mem_linesOf_of_line {pieces : List Piece} {text : String} (h : .line text ∈ pieces)
    (depth : Nat) : atDepth depth text ∈ linesOf depth pieces := by
  induction pieces with
  | nil => cases h
  | cons piece rest ih =>
    rw [linesOf, List.mem_append]
    rcases List.mem_cons.mp h with rfl | hrest
    · exact .inl (List.mem_singleton_self _)
    · exact .inr (ih hrest)

theorem mem_linesOf_of_block {pieces body : List Piece} {opening closing line : String}
    {depth : Nat} (h : .block opening closing body ∈ pieces)
    (hline : line ∈ linesOf (depth + 1) body) :
    line ∈ linesOf depth pieces := by
  induction pieces with
  | nil => cases h
  | cons piece rest ih =>
    rw [linesOf, List.mem_append]
    rcases List.mem_cons.mp h with rfl | hrest
    · rw [Piece.lines]
      exact .inl (List.mem_append_left _ (List.mem_cons_of_mem _ hline))
    · exact .inr (ih hrest)

/-- The literal stands between quotes in the statements that bind the message. -/
theorem literal_mem_bindingPieces (config : Config) (m : Method) (literal : String) :
    ∃ text, .line text ∈ JavaClass.bindingPieces config m literal ∧
      (JavaClass.quoted literal).toList <:+: text.toList := by
  rw [JavaClass.bindingPieces]
  split_ifs with hbare hmany
  · refine ⟨_, List.mem_singleton_self _, ?_⟩
    exact infix_append_left (infix_append_right List.infix_rfl)
  · refine ⟨_, List.mem_cons_self, ?_⟩
    -- the call with an array of arguments, then the statement around it
    have hcall {arguments : String} : (JavaClass.quoted literal).toList <:+:
        s!"arrayFormat({JavaClass.quoted literal}, new Object[] \x7b{arguments}\x7d)".toList :=
      infix_append_left (infix_append_left (infix_append_left
        (infix_append_right List.infix_rfl)))
    exact infix_append_left (infix_append_right hcall)
  · refine ⟨_, List.mem_cons_self, ?_⟩
    have hcall {arguments : String} : (JavaClass.quoted literal).toList <:+:
        s!"format({JavaClass.quoted literal}, {arguments})".toList :=
      infix_append_left (infix_append_left (infix_append_left
        (infix_append_right List.infix_rfl)))
    exact infix_append_left (infix_append_right hcall)

/-- The literal stands between quotes in the body of its method. -/
theorem literal_mem_pieces {config : Config} {projectCode literal : String} {m : Method}
    {r : Resolution} (h : r.literal? projectCode = some literal) :
    ∃ body text, .block "\x7b" "\x7d" body ∈ r.pieces config projectCode m ∧ .line text ∈ body ∧
      (JavaClass.quoted literal).toList <:+: text.toList := by
  cases r with
  | message id template =>
    obtain rfl := Option.some.inj h
    obtain ⟨text, hmem, hwithin⟩ := literal_mem_bindingPieces config m
      (JavaClass.messageLiteral projectCode id template)
    refine ⟨_, text, ?_, List.mem_append_left [JavaClass.returnPiece m] hmem, hwithin⟩
    exact List.mem_cons_of_mem _ (List.mem_cons_of_mem _ List.mem_cons_self)
  | logMessage id template level =>
    obtain rfl := Option.some.inj h
    refine ⟨_, _, List.mem_cons_of_mem _ (List.mem_cons_of_mem _ List.mem_cons_self),
      List.mem_singleton_self _, ?_⟩
    -- behind the name of the call comes the literal, then the arguments
    exact infix_append_left (infix_append_left (infix_append_right List.infix_rfl))
  | getLogger => cases h

/-- The literals of a bundle stand between quotes in its unit. -/
theorem literal_written {config : Config} {b : Bundle} {methods : List ResolvedMethod}
    {literal : String} (h : literal ∈ b.literals methods) :
    (JavaClass.quoted literal).toList <:+: (b.render config methods).contents.toList := by
  obtain ⟨resolved, hmem, hliteral⟩ := List.mem_filterMap.mp h
  obtain ⟨body, text, hblock, hline, hwithin⟩ := literal_mem_pieces hliteral
  have hmethod : .block "\x7b" "\x7d" body ∈
      b.memberPieces config ++ methods.flatMap (b.methodPieces config) :=
    List.mem_append_right _ (List.mem_flatMap.mpr ⟨resolved, hmem, List.mem_cons_of_mem _ hblock⟩)
  have hclass : .block "\x7b" "\x7d"
      (b.memberPieces config ++ methods.flatMap (b.methodPieces config)) ∈
      b.pieces config methods := by
    rw [Bundle.pieces]
    exact List.mem_append_right _
      (List.mem_cons_of_mem _ (List.mem_cons_of_mem _ List.mem_cons_self))
  have hinner := mem_linesOf_of_block hmethod (mem_linesOf_of_line hline 2)
  rw [Bundle.render]
  exact infix_render (mem_linesOf_of_block hclass hinner) (infix_atDepth hwithin 2)

/-! ### The literals of a rendered round -/

/-- In a rendered round, the literals of each bundle are closed exactly when its project
code swallows no quote; nothing else leaves a literal open. -/
theorem literals_closed_iff {config : Config} {interfaces : List Interface}
    {sources : List Source} (h : render config interfaces = .ok sources) :
    List.Forall₂ (fun i source => ∃ b methods, i.toBundle? = some b ∧
        source = b.render config methods ∧
        ∀ literal ∈ b.literals methods,
          (JavaClass.quoted literal).toList <:+: source.contents.toList ∧
          (Template.closedBody literal.toList = true ↔
            ¬Template.SwallowsQuote b.projectCode.toList))
      (bundled interfaces) sources := by
  refine (forall₂_isRenderedAs h).imp ?_
  rintro i source ⟨b, methods, hb, hmethods, rfl⟩
  refine ⟨b, methods, hb, rfl, fun literal hliteral => ?_⟩
  refine ⟨literal_written hliteral, ?_⟩
  obtain ⟨resolved, hmem, hsome⟩ := List.mem_filterMap.mp hliteral
  obtain ⟨entry, hentry, rfl⟩ := Option.map_eq_some_iff.mp hsome
  obtain ⟨m, -, -, hshape⟩ := exists_of_forall₂_of_mem hmethods hmem
  rw [JavaClass.closedBody_messageLiteral_iff]
  exact and_iff_left (hshape.sound hentry)

/-- A bundle with one message and the project code. -/
def messageBundle (projectCode : String) : Interface :=
  { name := "a.B"
    projectCode := some projectCode
    methods := [{ name := "m", returnType := "String", message := some ⟨1, "x"⟩ }] }

/-- With a plain project code, the literal of the bundle is closed. -/
theorem literals_closed_plain_code :
    ∃ source, render {} [messageBundle "A"] = .ok [source] ∧
      ∃ b methods, (messageBundle "A").toBundle? = some b ∧ source = b.render {} methods ∧
        ∀ literal ∈ b.literals methods, Template.closedBody literal.toList = true := by
  have hrender : ∃ source, render {} [messageBundle "A"] = .ok [source] := ⟨_, rfl⟩
  obtain ⟨source, hrender⟩ := hrender
  cases literals_closed_iff hrender with
  | cons hunit _ =>
    obtain ⟨b, methods, hb, hsource, hliterals⟩ := hunit
    refine ⟨source, hrender, b, methods, hb, hsource, fun literal hliteral => ?_⟩
    refine (hliterals literal hliteral).2.mpr ?_
    obtain rfl := Option.some.inj hb
    rintro ⟨before, after, hplace, -⟩
    have hquote : '"' ∈ "A".toList := by
      rw [show "A".toList = before ++ '"' :: after from hplace]
      exact List.mem_append_right before List.mem_cons_self
    exact absurd hquote (by decide)

/-- A project code that ends in a backslash and a quote is let through, and the literal
written with it is not closed. -/
theorem literal_open_quoting_code :
    Manifest.validate ⟨{}, [messageBundle "A\\\""]⟩ = .ok () ∧
      ∃ b methods, (messageBundle "A\\\"").toBundle? = some b ∧
        render {} [messageBundle "A\\\""] = .ok [b.render {} methods] ∧
        ∃ literal ∈ b.literals methods, Template.closedBody literal.toList = false := by
  refine ⟨by decide, _, [⟨_, .message 1 "x"⟩], rfl, rfl, _, List.mem_singleton_self _, ?_⟩
  decide

end MessageBundle
