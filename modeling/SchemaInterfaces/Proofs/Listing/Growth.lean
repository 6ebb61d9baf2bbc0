import SchemaInterfaces.Proofs.Listing.Preorder

/-!
# How listings grow

A listing goes through changes: a tree of messages is added, a definition is put at the end, or the
package is set. In whatever order they come, none of them moves or replaces what is already there.
The list of definitions only gets longer, and a path that leads to a definition leads to this one
from then on, even if more definitions with the path follow.
-/

namespace SchemaInterfaces.Listing

open Descriptor

/-- A change that a listing goes through. -/
inductive Change where
  | addMessage (policy : WidePolicy) (parent : Option String) (message : Message)
  | push (definition : Definition)
  | withPackage (package : String)

namespace Change

/-- The definitions that a change puts at the end. -/
def added : Change → List Definition
  | addMessage policy parent message => preorder policy parent message
  | push definition => [definition]
  | withPackage _ => []

/-- The package that a change sets, if it sets one. -/
def package? : Change → Option String
  | addMessage _ _ _ | push _ => none
  | withPackage package => some package

end Change

/-- The listing after a change. -/
def apply (listing : Listing) : Change → Listing
  | .addMessage policy parent message => listing.addMessage policy parent message
  | .push definition => listing.push definition
  | .withPackage package => listing.withPackage package

/-- The listing after changes, one after the other. -/
def applyAll (listing : Listing) (changes : List Change) : Listing :=
  changes.foldl apply listing

theorem applyAll_cons (listing : Listing) (change : Change) (others : List Change) :
    listing.applyAll (change :: others) = (listing.apply change).applyAll others := rfl

theorem applyAll_append (listing : Listing) (earlier later : List Change) :
    listing.applyAll (earlier ++ later) = (listing.applyAll earlier).applyAll later :=
  List.foldl_append

/-- A change puts its definitions behind the others and sets its package, if it has one. It does
nothing else. -/
theorem apply_eq (listing : Listing) (change : Change) :
    listing.apply change =
      { source := listing.source
        package := change.package?.getD listing.package
        definitions := listing.definitions ++ change.added } := by
  cases change with
  | addMessage policy parent message => exact addMessage_eq policy listing parent message
  | push definition => rfl
  | withPackage package =>
      rw [Change.added, List.append_nil]
      rfl

/-- The last of several packages is the last of the others, if there are others. -/
theorem getLast?_packages_cons (change : Change) (others : List Change) (package : String) :
    ((change :: others).filterMap Change.package?).getLast?.getD package =
      (others.filterMap Change.package?).getLast?.getD (change.package?.getD package) := by
  cases hpackage : change.package? with
  | none => rw [List.filterMap_cons_none hpackage, Option.getD_none]
  | some first =>
      rw [List.filterMap_cons_some hpackage, List.getLast?_cons, Option.getD_some,
        Option.getD_some]

/-- Changes put their definitions behind the others, those of one change behind those of the change
before it, and the last package that they set remains. -/
theorem applyAll_eq (listing : Listing) (changes : List Change) :
    listing.applyAll changes =
      { source := listing.source
        package := (changes.filterMap Change.package?).getLast?.getD listing.package
        definitions := listing.definitions ++ changes.flatMap Change.added } := by
  -- The other changes start from what the first one leaves, so the listing may not be fixed.
  induction changes generalizing listing with
  | nil => simp [applyAll]
  | cons change others ih =>
      rw [applyAll_cons, ih, apply_eq, getLast?_packages_cons, List.flatMap_cons,
        List.append_assoc]

/-- What changes add is found only under paths that led to nothing before. -/
theorem find?_applyAll (listing : Listing) (changes : List Change) (path : String) :
    (listing.applyAll changes).find? path =
      (listing.find? path).or
        ((changes.flatMap Change.added).find? fun definition => definition.path == path) := by
  rw [applyAll_eq]
  exact List.find?_append

/-- Whatever changes a listing goes through, its list of definitions is continued by what they add,
the schema file stays the same, and the package is the last one that was set, or else the one that
was there. At every point, what is in the list by then stays in front, and a path that leads to a
definition leads to the same definition at all later points. -/
theorem applyAll_appendsOnly (listing : Listing) :
    (∀ changes,
      (listing.applyAll changes).definitions =
          listing.definitions ++ changes.flatMap Change.added ∧
        (listing.applyAll changes).source = listing.source ∧
        (listing.applyAll changes).package =
          (changes.filterMap Change.package?).getLast?.getD listing.package) ∧
      ∀ earlier later,
        (listing.applyAll earlier).definitions <+:
            (listing.applyAll (earlier ++ later)).definitions ∧
          ∀ path definition, (listing.applyAll earlier).find? path = some definition →
            (listing.applyAll (earlier ++ later)).find? path = some definition := by
  constructor
  · intro changes
    rw [applyAll_eq]
    exact ⟨rfl, rfl, rfl⟩
  · intro earlier later
    rw [applyAll_append]
    refine ⟨?_, ?_⟩
    · rw [applyAll_eq (listing.applyAll earlier)]
      exact List.prefix_append _ _
    · intro path definition hfound
      rw [find?_applyAll, hfound, Option.some_or]

/-- A definition that is there before the message of the same name. -/
def firstCart : Definition :=
  ⟨"Cart", "Cart", [⟨"total", .primitive .numeric⟩]⟩

def firstChanges : List Change :=
  [.withPackage "shop", .push firstCart]

/-- A message `Cart` with a message inside, another package, and a definition with a path that the
message has brought along. -/
def moreChanges : List Change :=
  [.addMessage .nativeNumeric none { name := some "Cart", nested := [{ name := some "Item" }] },
    .withPackage "store", .push ⟨"Item", "Cart.Item", [⟨"count", .primitive .numeric⟩]⟩]

/-- The first definition of `Cart` is found before and after the second one is there. -/
theorem applyAll_appendsOnly_moreChanges :
    (applyAll { source := "cart.proto" } firstChanges).find? "Cart" = some firstCart ∧
      (applyAll { source := "cart.proto" } (firstChanges ++ moreChanges)).find? "Cart" =
        some firstCart ∧
      (applyAll { source := "cart.proto" } (firstChanges ++ moreChanges)).definitions.map
          Definition.path = ["Cart", "Cart", "Cart.Item", "Cart.Item"] ∧
      (applyAll { source := "cart.proto" } (firstChanges ++ moreChanges)).package = "store" := by
  have hfirst : (applyAll { source := "cart.proto" } firstChanges).find? "Cart" =
      some firstCart := by
    rfl
  obtain ⟨hwhole, hpoints⟩ := applyAll_appendsOnly { source := "cart.proto" }
  obtain ⟨hdefinitions, -, hpackage⟩ := hwhole (firstChanges ++ moreChanges)
  refine ⟨hfirst, (hpoints firstChanges moreChanges).2 "Cart" firstCart hfirst, ?_, hpackage⟩
  rw [hdefinitions]
  rfl

end SchemaInterfaces.Listing
