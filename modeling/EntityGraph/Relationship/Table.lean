import EntityGraph.Entity.Category
import EntityGraph.Text.Quoted
/-!
The table of relationships between categories.

* `Table`: labels by ordered pairs of categories, in the order of their entries.
* `Table.build`: checks entries one after the other; `TableError` tells the first offence.
* `isLabel`: lower snake case. One line break at the end is let through.
* `Table.standard`: the table that the graph uses.
-/

namespace EntityGraph.Relationship

/-- The label between entities of one category. -/
def sameCategory : String := "same_category"

/-- The label between entities that are merely found together. -/
def coOccurs : String := "co_occurs"

/-- The label from an entity to the documents it appears in. -/
def appearsIn : String := "appears_in"

/-- Labels that no table may use. -/
def reservedLabels : List String := [sameCategory, coOccurs, appearsIn]

/-- The labels by category pairs; an entry reads "from – label – to". -/
abbrev Table := List (Category × Category × String)

/-- One end of a proposed entry: a category, or a text that is none. -/
inductive Endpoint where
  | category (c : Category)
  | other (s : String)
  deriving DecidableEq, Repr

/-- How an end point is shown. -/
def Endpoint.display : Endpoint → String
  | category c => "<EntityCategory." ++ c.identifier ++ ": " ++ Text.quoted c.name ++ ">"
  | other s => Text.quoted s

/-- Why an entry is refused. -/
inductive TableError where
  | notCategories (source target : Endpoint)
  | sameCategories (c : Category)
  | malformedLabel (label : String)
  | reservedLabel (label : String)
  | duplicate (source target : Category)
  deriving DecidableEq, Repr

/-- What a refusal says. -/
def TableError.message : TableError → String
  | notCategories s t =>
    "Categories must be EntityCategory members: " ++ s.display ++ ", " ++ t.display
  | sameCategories c => "Same-category pair " ++ c.name ++ " is always " ++ sameCategory
  | malformedLabel l => "Relationship label must be lower snake case: " ++ Text.quoted l
  | reservedLabel l => "Relationship label " ++ Text.quoted l ++ " is reserved"
  | duplicate s t => "Duplicate relationship for " ++ s.name ++ "-" ++ t.name

/-- A lower-case ASCII letter. -/
def isLowerLetter (c : Char) : Bool := 'a' ≤ c && c ≤ 'z'

/-- What may follow the first letter of a label. -/
def isLabelChar (c : Char) : Bool := isLowerLetter c || c.isDigit || c == '_'

/-- The characters of a label up to its end; a single line break may follow them. -/
def isLabelTail : List Char → Bool
  | [] => true
  | ['\n'] => true
  | c :: rest => isLabelChar c && isLabelTail rest

/-- Lower snake case, up to one line break at the end. -/
def isLabel (label : String) : Bool :=
  match label.toList with
  | [] => false
  | c :: rest => isLowerLetter c && isLabelTail rest

namespace Table

/-- The label of an ordered pair of categories. -/
def lookup (table : Table) (source target : Category) : Option String :=
  (table.find? fun (s, t, _) => s = source ∧ t = target).map fun (_, _, l) => l

/-- One more entry. -/
def add (table : Table) (source target : Endpoint) (label : String) :
    Except TableError Table :=
  match source, target with
  | .category s, .category t =>
    if s = t then .error (.sameCategories s)
    else if !isLabel label then .error (.malformedLabel label)
    else if label ∈ reservedLabels then .error (.reservedLabel label)
    else if (table.lookup s t).isSome then .error (.duplicate s t)
    else .ok (table ++ [(s, t, label)])
  | s, t => .error (.notCategories s t)

/-- A table from its entries. -/
def build (entries : List (Endpoint × Endpoint × String)) : Except TableError Table :=
  entries.foldlM (fun table (s, t, label) => table.add s t label) []

/-- The relationships between categories. -/
def standard : Table :=
  [
    (.person, .personType, "has_title"),
    (.person, .organization, "works_for"),
    (.person, .event, "organized_event"),
    (.person, .product, "uses_product"),
    (.person, .skill, "has_skill"),
    (.person, .location, "resides_in"),
    (.person, .address, "lives_at"),
    (.person, .phoneNumber, "has_phone_number"),
    (.person, .email, "has_email"),
    (.person, .url, "has_website"),
    (.person, .ip, "last_seen_at_ip"),
    (.person, .dateTime, "born_on"),
    (.person, .quantity, "has_age"),
    (.personType, .organization, "role_within_organization"),
    (.organization, .person, "employs"),
    (.organization, .event, "sponsors"),
    (.organization, .product, "produces"),
    (.organization, .skill, "requires_skill"),
    (.organization, .location, "based_in"),
    (.organization, .address, "headquartered_at"),
    (.organization, .phoneNumber, "has_contact_number"),
    (.organization, .email, "has_contact_email"),
    (.organization, .url, "official_website"),
    (.organization, .ip, "owns_ip_range"),
    (.organization, .dateTime, "founded_on"),
    (.organization, .quantity, "has_employee_count"),
    (.event, .person, "attended_by"),
    (.event, .organization, "hosted_by"),
    (.event, .product, "featured_product"),
    (.event, .location, "occurs_in"),
    (.event, .address, "held_at_address"),
    (.event, .url, "has_event_page"),
    (.event, .dateTime, "scheduled_for"),
    (.event, .quantity, "expected_attendees"),
    (.product, .organization, "manufactured_by"),
    (.product, .skill, "requires_skill_to_operate"),
    (.product, .location, "sold_in"),
    (.product, .url, "has_product_page"),
    (.product, .dateTime, "released_on"),
    (.product, .quantity, "has_price"),
    (.skill, .personType, "skill_for_role"),
    (.address, .location, "is_in_city_or_country")
  ]

/-- The labels of a table together with the two fallbacks, sorted and without repetition. -/
def labels (table : Table) : List String :=
  let all := sameCategory :: coOccurs :: table.map fun (_, _, l) => l
  (all.mergeSort fun a b => decide (a ≤ b)).eraseReps

end Table

end EntityGraph.Relationship
