import MessageBundle.JavaClass
import MessageBundle.Manifest.Loading
import MessageBundle.Proofs.Name.Segments
import MessageBundle.Round

/-!
# What the type names in a class denote

A class names the four types of its configuration by their simple names, and its interface by
the simple name if both are in one package. What a simple name denotes is told by the unit:
the type that is imported under it, and else the type of that name in the package of the
unit. So a simple name can denote another type than the one that was meant, when an import
shadows it. Whether an import does is not looked at: an interface with the simple name of an
imported type is implemented by that name, and then it is the imported type that the class
implements.

## Main definitions

* `UnitScope` — the package and the imports of a unit
* `UnitScope.Denotes` — the type that a name in a unit denotes
* `UnitScope.Shadows` — a type whose simple name is imported as another type

## Main results

* `UnitScope.Denotes.unique` — a name denotes one type at most
* `UnitScope.denotes_iff` — when a simple name denotes a type that has this simple name
* `Bundle.type_names_iff` — when the names in a class denote the types that are meant
* `type_names_confused` — accepted rounds in which they do not
-/

namespace MessageBundle

open Text SourceText

/-- What is in scope in a unit: the types of its package, and the types it imports. -/
structure UnitScope where
  packageName : String
  imports : List String

namespace UnitScope

/-- The declarations that put a package and imports in scope. -/
def pieces (scope : UnitScope) : List Piece :=
  (if scope.packageName = "" then [] else [.line s!"package {scope.packageName};", .blank]) ++
    scope.imports.map fun type => .line s!"import {type};"

/-- The imported types, by their segments. -/
def importedTypes (scope : UnitScope) : List (List String) := scope.imports.map Name.segments

/-- A name with a dot denotes the type of that name. A simple name denotes the one type that
is imported with this simple name; if there is none, it denotes the type of that name in the
package of the unit. -/
inductive Denotes (scope : UnitScope) (name : String) : List String → Prop
  | qualified (dotted : '.' ∈ name.toList) : Denotes scope name (Name.segments name)
  | imported {type : List String} (simple : '.' ∉ name.toList)
      (mem : type ∈ scope.importedTypes) (named : type.getLast? = some (trim name))
      (single : ∀ other ∈ scope.importedTypes, other.getLast? = some (trim name) → other = type) :
      Denotes scope name type
  | unimported (simple : '.' ∉ name.toList)
      (none : ∀ other ∈ scope.importedTypes, other.getLast? ≠ some (trim name)) :
      Denotes scope name (Name.segments scope.packageName ++ [trim name])

/-- An import has the simple name of a type and is another type. Two imports of which one
shadows the other are illegal. -/
def Shadows (scope : UnitScope) (type : List String) : Prop :=
  ∃ other ∈ scope.importedTypes, other.getLast? = type.getLast? ∧ other ≠ type

instance (scope : UnitScope) (type : List String) : Decidable (scope.Shadows type) :=
  List.decidableBEx _ scope.importedTypes

variable {scope : UnitScope} {name : String} {type : List String}

/-- A name denotes one type at most. -/
theorem Denotes.unique {other : List String} (h : scope.Denotes name type)
    (h' : scope.Denotes name other) : type = other := by
  cases h with
  | qualified dotted =>
    cases h' with
    | qualified => rfl
    | imported simple | unimported simple => exact absurd dotted simple
  | imported simple mem named single =>
    cases h' with
    | qualified dotted => exact absurd dotted simple
    | imported _ mem' named' => exact (single _ mem' named').symm
    | unimported _ none => exact absurd named (none _ mem)
  | unimported simple none =>
    cases h' with
    | qualified dotted => exact absurd dotted simple
    | imported _ mem' named' => exact absurd named' (none _ mem')
    | unimported => rfl

/-- A name with a dot is not looked up. -/
theorem denotes_of_dotted (h : '.' ∈ name.toList) :
    scope.Denotes name type ↔ type = Name.segments name := by
  refine ⟨fun hdenotes => hdenotes.unique (.qualified h), ?_⟩
  rintro rfl
  exact .qualified h

/-- A simple name denotes a type with this simple name exactly when no import shadows the
type, and it is imported or in the package of the unit. -/
theorem denotes_iff (hsimple : '.' ∉ name.toList) (hnamed : type.getLast? = some (trim name)) :
    scope.Denotes name type ↔
      ¬scope.Shadows type ∧
        (type ∈ scope.importedTypes ∨
          type = Name.segments scope.packageName ++ [trim name]) := by
  constructor
  · intro hdenotes
    cases hdenotes with
    | qualified dotted => exact absurd dotted hsimple
    | imported _ mem _ single =>
      refine ⟨?_, .inl mem⟩
      rintro ⟨other, hother, hlast, hne⟩
      exact hne (single other hother (hlast.trans hnamed))
    | unimported _ none =>
      refine ⟨?_, .inr rfl⟩
      rintro ⟨other, hother, hlast, -⟩
      exact none other hother (hlast.trans hnamed)
  · rintro ⟨hunshadowed, hplace⟩
    have hsingle : ∀ other ∈ scope.importedTypes, other.getLast? = some (trim name) →
        other = type := by
      intro other hother hlast
      by_contra hne
      exact hunshadowed ⟨other, hother, hlast.trans hnamed.symm, hne⟩
    by_cases hmem : type ∈ scope.importedTypes
    · exact .imported hsimple hmem hnamed hsingle
    · obtain rfl := hplace.resolve_left hmem
      refine .unimported hsimple fun other hother hlast => hmem ?_
      exact hsingle other hother hlast ▸ hother

end UnitScope

namespace Bundle

/-- What is in scope in the unit for a bundle. -/
def scope (config : Config) (b : Bundle) : UnitScope := ⟨b.namespaceName, config.imports⟩

/-- The header of a class ends in the declarations of what is in scope. -/
theorem headerPieces_eq (config : Config) (b : Bundle) :
    ∃ opening, b.headerPieces config = opening ++ (b.scope config).pieces ++ [.blank] := by
  rw [headerPieces, UnitScope.pieces, scope]
  exact ⟨_, congrArg (· ++ [Piece.blank]) (List.append_assoc _ _ _)⟩

variable {config : Config} {b : Bundle}

/-- A type of the configuration is denoted by its simple name unless an import shadows it. -/
theorem denotes_simpleName_iff {type : String} (h : Name.IsSegmented type)
    (hmem : type ∈ config.imports) :
    (b.scope config).Denotes (Name.simpleName type) (Name.segments type) ↔
      ¬(b.scope config).Shadows (Name.segments type) := by
  rw [UnitScope.denotes_iff (Name.dot_notMem_simpleName type) h.getLast?_segments]
  exact and_iff_left (.inl (List.mem_map_of_mem hmem))

/-- The interface is denoted by its reference if that is qualified; if not, no import may
shadow the interface, and it is in the namespace of the bundle or imported. -/
theorem denotes_interfaceReference_iff (h : Name.IsSegmented b.qualifiedName) :
    (b.scope config).Denotes b.interfaceReference (Name.segments b.qualifiedName) ↔
      '.' ∈ b.interfaceReference.toList ∨
        ¬(b.scope config).Shadows (Name.segments b.qualifiedName) ∧
          (b.namespaceName = Name.packageOf b.qualifiedName ∨
            Name.segments b.qualifiedName ∈ (b.scope config).importedTypes) := by
  have hlast := h.getLast?_segments
  have hsegments := h.segments_eq
  by_cases hpackage : Name.packageOf b.qualifiedName = b.namespaceName
  · have hsimple := Name.dot_notMem_simpleName b.qualifiedName
    have hlocal : Name.segments b.qualifiedName =
        Name.segments b.namespaceName ++ [trim (Name.simpleName b.qualifiedName)] := by
      rw [hsegments, hpackage]
    rw [interfaceReference, if_pos hpackage, UnitScope.denotes_iff hsimple hlast, hpackage]
    simp only [hsimple, false_or, true_or, and_true]
    exact and_iff_left (.inr hlocal)
  · rw [interfaceReference, if_neg hpackage]
    by_cases hdot : '.' ∈ b.qualifiedName.toList
    · rw [UnitScope.denotes_of_dotted hdot]
      exact iff_of_true rfl (.inl hdot)
    · -- an interface of the default package is in no other namespace
      obtain ⟨hname, hdefault⟩ := Name.simpleName_of_notMem hdot
      have hforeign : Name.segments b.qualifiedName ≠
          Name.segments (b.scope config).packageName ++ [trim b.qualifiedName] := by
        rw [hsegments, hdefault, hname]
        intro hsame
        have hnone := Name.segments_eq_nil_iff.mp (List.append_cancel_right hsame).symm
        exact hpackage (hdefault.trans hnone.symm)
      rw [hname] at hlast
      rw [UnitScope.denotes_iff hdot hlast]
      simp only [hdot, hforeign, Ne.symm hpackage, false_or, or_false]

/-- What the names in a class denote. A type of the configuration is denoted by its simple
name exactly when no import shadows it. The interface is denoted by its reference exactly
when that is qualified, or no import shadows the interface and it is in the namespace of the
bundle or imported. And the class has the name of its interface exactly when its suffix is
blank and its namespace the package of the interface, or its suffix has a dot and makes up
the rest of the name of the interface. -/
theorem type_names_iff (config : Config) (b : Bundle)
    (hname : Name.IsSegmented b.qualifiedName)
    (htypes : ∀ type ∈ config.imports, Name.IsSegmented type) :
    (∃ opening, b.headerPieces config = opening ++ (b.scope config).pieces ++ [.blank]) ∧
    (∀ type ∈ config.imports,
      (b.scope config).Denotes (Name.simpleName type) (Name.segments type) ↔
        ¬(b.scope config).Shadows (Name.segments type)) ∧
    ((b.scope config).Denotes b.interfaceReference (Name.segments b.qualifiedName) ↔
      '.' ∈ b.interfaceReference.toList ∨
        ¬(b.scope config).Shadows (Name.segments b.qualifiedName) ∧
          (b.namespaceName = Name.packageOf b.qualifiedName ∨
            Name.segments b.qualifiedName ∈ (b.scope config).importedTypes)) ∧
    (Name.segments (b.outputName config) = Name.segments b.qualifiedName ↔
      (isAllBlank config.implSuffix = true ∧
        Name.segments b.namespaceName = Name.segments (Name.packageOf b.qualifiedName)) ∨
      ('.' ∈ config.implSuffix.toList ∧
        trim (Name.simpleName config.implSuffix) = trim (Name.simpleName b.qualifiedName) ∧
        Name.segments (Name.qualify b.namespaceName (Name.className
            (Name.simpleName b.qualifiedName) (Name.packageOf config.implSuffix))) =
          Name.segments (Name.packageOf b.qualifiedName))) :=
  ⟨b.headerPieces_eq config, fun type hmem => denotes_simpleName_iff (htypes type hmem) hmem,
    denotes_interfaceReference_iff hname,
    hname.segments_className_eq_iff b.namespaceName config.implSuffix⟩

end Bundle

/-- A bundle without methods, in the package of its interface. -/
def emptyBundle (qualifiedName : String) : Bundle :=
  { qualifiedName
    namespaceName := Name.packageOf qualifiedName
    projectCode := "A"
    methods := [] }

/-- The interface that is declared for such a bundle. -/
def emptyInterface (name : String) : Interface := { name, projectCode := some "A" }

/-- With an interface that is called otherwise than the imported types, all names in the class
denote what is meant. -/
theorem type_names_plain :
    Name.IsSegmented (emptyBundle "a.B").qualifiedName ∧
    (∀ type ∈ ({} : Config).imports, Name.IsSegmented type ∧
      ((emptyBundle "a.B").scope {}).Denotes (Name.simpleName type) (Name.segments type)) ∧
    ((emptyBundle "a.B").scope {}).Denotes (emptyBundle "a.B").interfaceReference ["a", "B"] ∧
    Name.segments ((emptyBundle "a.B").outputName {}) ≠ ["a", "B"] := by
  have hname : Name.IsSegmented (emptyBundle "a.B").qualifiedName := by decide
  have htypes : ∀ type ∈ ({} : Config).imports, Name.IsSegmented type := by decide
  have hunshadowed : ∀ type ∈ ({} : Config).imports,
      ¬((emptyBundle "a.B").scope {}).Shadows (Name.segments type) := by decide
  have hsegments : Name.segments (emptyBundle "a.B").qualifiedName = ["a", "B"] := by decide
  obtain ⟨-, htype, hinterface, hclass⟩ :=
    Bundle.type_names_iff {} (emptyBundle "a.B") hname htypes
  rw [hsegments] at hinterface hclass
  refine ⟨hname, fun type hmem => ⟨htypes type hmem, ?_⟩, ?_, ?_⟩
  · exact (htype type hmem).mpr (hunshadowed type hmem)
  · exact hinterface.mpr (.inr (by decide))
  · exact mt hclass.mp (by decide)

/-- The round over such an interface alone is accepted, and the bundle is rendered. -/
def IsRenderedAlone (config : Config) (name : String) : Prop :=
  Manifest.validate ⟨config, [emptyInterface name]⟩ = .ok () ∧
    render config [emptyInterface name] = .ok [(emptyBundle name).render config []]

/-- Three accepted rounds. In the first one the class implements the logger and not the
interface of that name, in the second one two types are imported under one name, and in the
third one the class has the name of its interface. -/
theorem type_names_confused :
    (IsRenderedAlone {} "a.Logger" ∧
      ((emptyBundle "a.Logger").scope {}).Denotes (emptyBundle "a.Logger").interfaceReference
        ["org", "slf4j", "Logger"] ∧
      ¬((emptyBundle "a.Logger").scope {}).Denotes (emptyBundle "a.Logger").interfaceReference
        ["a", "Logger"]) ∧
    (IsRenderedAlone { formatter := "x.T", formattingTuple := "y.T" } "a.B" ∧
      ¬((emptyBundle "a.B").scope { formatter := "x.T", formattingTuple := "y.T" }).Denotes
        "T" ["x", "T"]) ∧
    IsRenderedAlone { implSuffix := " " } "a.B" ∧
      Name.segments ((emptyBundle "a.B").outputName { implSuffix := " " }) = ["a", "B"] := by
  have hlogger : ((emptyBundle "a.Logger").scope {}).Denotes
      (emptyBundle "a.Logger").interfaceReference ["org", "slf4j", "Logger"] := by
    rw [UnitScope.denotes_iff (by decide) (by decide)]
    decide
  refine ⟨⟨⟨by decide, rfl⟩, hlogger, fun hinterface => ?_⟩, ⟨⟨by decide, rfl⟩, ?_⟩,
    ⟨by decide, rfl⟩, by decide⟩
  · exact absurd (hlogger.unique hinterface) (by decide)
  · rw [UnitScope.denotes_iff (by decide) (by decide)]
    decide

end MessageBundle
