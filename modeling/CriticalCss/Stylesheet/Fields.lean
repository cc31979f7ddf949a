import CriticalCss.Stylesheet.Basic
import CriticalCss.Pattern.Entry

/-!
# Nodes and rules from fields

Nodes and rules can be handed over as records. A record that does not fit is refused with all its issues, in the order in which the
fields are declared.
-/

namespace CriticalCss

namespace Node

/-- The name of the record. -/
def recordName : Text := "SelectorNode".toList

/-- A node from its fields. -/
def ofFields (entries : List (Value × Value)) : Except (List Issue) Node :=
  let index := Checked.required entries "index".toList (Value.asAtLeast 0)
  let kind := Checked.required entries "kind".toList
    (Value.asOneOf [NodeKind.selector.name, NodeKind.selectorList.name])
  let text := Checked.required entries "text".toList Value.asText
  let line := Checked.optional entries "line".toList 1 (Value.asAtLeast 1)
  match index.outcome, kind.outcome, text.outcome, line.outcome with
  | .ok i, .ok k, .ok t, .ok l => .ok ⟨i, (NodeKind.ofName? k).getD .selector, t, l⟩
  | _, _, _, _ => .error (index.issues ++ kind.issues ++ text.issues ++ line.issues)

/-- A node from a record. -/
def ofValue : Value → Except (List Issue) Node
  | .mapping entries => ofFields entries
  | _ => .error [⟨[], .notRecord recordName⟩]

end Node

namespace Rule

/-- A part of a record and what became of it: its value, or its issues seen from the record. -/
def partOf (name : String) : Except (List Issue) α → Except (List Issue) α
  | .ok a => .ok a
  | .error found => .error (found.map (·.within (.field name.toList)))

/-- The items of a list, each of them checked, with all their issues. -/
def checkItems (check : Value → Except (List Issue) α) : Nat → List Value → Except (List Issue) (List α)
  | _, [] => .ok []
  | i, v :: rest => match check v, checkItems check (i + 1) rest with
    | .ok a, .ok as => .ok (a :: as)
    | .ok _, .error found => .error found
    | .error found, .ok _ => .error (found.map (·.within (.item i)))
    | .error found, .error more => .error (found.map (·.within (.item i)) ++ more)

/-- A field that is a list; absent, it is empty. -/
def listField (entries : List (Value × Value)) (name : String) (check : Value → Except (List Issue) α) :
    Except (List Issue) (List α) :=
  partOf name (match Value.field? name.toList entries with
    | none => .ok []
    | some (.list items) => checkItems check 0 items
    | some _ => .error [⟨[], .notList⟩])

/-- A field that may be null; absent, it is null. -/
def nullableField (entries : List (Value × Value)) (name : String) (check : Value → Except (List Issue) α) :
    Except (List Issue) (Option α) :=
  partOf name (match Value.field? name.toList entries with
    | none | some .null => .ok none
    | some value => (check value).map some)

/-- The issues of a part. -/
def issuesOf : Except (List Issue) α → List Issue
  | .ok _ => []
  | .error found => found

/-- The value as a text, or the issue that it is none. -/
def textItem (v : Value) : Except (List Issue) Text := v.asText.mapError fun c => [⟨[], c⟩]

/-- A rule from its fields. -/
def ofFields (entries : List (Value × Value)) : Except (List Issue) Rule :=
  let atRule := nullableField entries "at_rule" textItem
  let list := nullableField entries "selector_list" Node.ofValue
  let selectors := listField entries "selectors" Node.ofValue
  let properties := listField entries "properties" textItem
  let line := Checked.optional entries "line".toList 1 (Value.asAtLeast 1)
  match atRule, list, selectors, properties, line.outcome with
  | .ok a, .ok l, .ok s, .ok p, .ok n => .ok ⟨a, l, s, p, n⟩
  | _, _, _, _, _ =>
    .error (issuesOf atRule ++ issuesOf list ++ issuesOf selectors ++ issuesOf properties ++ line.issues)

end Rule

end CriticalCss
