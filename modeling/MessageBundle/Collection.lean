import MessageBundle.Event
import MessageBundle.Name

/-!
# From interfaces to bundles

Collecting keeps the interfaces that have a project code, and of each the methods
that carry an annotation, all in the order in which they were declared. It never
fails.

## Main definitions

* `Interface.toBundle?` — the bundle that an interface stands for
* `collect` — the bundles of a list of interfaces
* `collectionEvents` — what is recorded while they are collected
-/

namespace MessageBundle

namespace Interface

/-- The namespace of what is generated: as given, or the package of the name. -/
def effectiveNamespace (i : Interface) : String :=
  i.namespaceName.getD (Name.packageOf i.name)

/-- The bundle that an interface stands for, if it has a project code. -/
def toBundle? (i : Interface) : Option Bundle :=
  i.projectCode.map fun code =>
    { qualifiedName := i.name
      namespaceName := i.effectiveNamespace
      projectCode := code
      methods := i.methods.filter Method.isAnnotated }

/-- What is recorded while an interface is collected. -/
def collectionEvents (i : Interface) : List Event :=
  match i.toBundle? with
  | none => [.interfaceSkipped i.name]
  | some bundle =>
    (i.methods.filter fun m => !m.isAnnotated).map (fun m => .methodSkipped i.name m.name) ++
      [.bundleCollected i.name bundle.projectCode bundle.methods.length]

end Interface

/-- The bundles of a list of interfaces, in their order. -/
def collect (interfaces : List Interface) : List Bundle :=
  interfaces.filterMap Interface.toBundle?

/-- What is recorded while a list of interfaces is collected. -/
def collectionEvents (interfaces : List Interface) : List Event :=
  interfaces.flatMap Interface.collectionEvents

end MessageBundle
