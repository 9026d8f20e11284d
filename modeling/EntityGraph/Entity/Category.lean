/-!
The closed vocabulary of entity categories.

* `Category`: the categories, in the order that ranks them.
* `Category.name`, `Category.ofName?`: the name of a category in documents, and back;
  `ofName?_name` and `name_of_ofName?` say that names stand for nothing else.
* `Category.rank`: the place of a category in the order.
-/

namespace EntityGraph

/-- A category of entities. -/
inductive Category where
  | person
  | personType
  | organization
  | event
  | product
  | skill
  | location
  | address
  | phoneNumber
  | email
  | url
  | ip
  | dateTime
  | quantity
  deriving DecidableEq, Repr, Inhabited

namespace Category

/-- All categories, in order. -/
def all : List Category :=
  [person, personType, organization, event, product, skill, location, address, phoneNumber, email,
    url, ip, dateTime, quantity]

/-- The name of a category in documents. -/
def name : Category → String
  | person => "Person"
  | personType => "PersonType"
  | organization => "Organization"
  | event => "Event"
  | product => "Product"
  | skill => "Skill"
  | location => "Location"
  | address => "Address"
  | phoneNumber => "PhoneNumber"
  | email => "Email"
  | url => "URL"
  | ip => "IP"
  | dateTime => "DateTime"
  | quantity => "Quantity"

/-- The identifier of a category. -/
def identifier : Category → String
  | person => "PERSON"
  | personType => "PERSON_TYPE"
  | organization => "ORGANIZATION"
  | event => "EVENT"
  | product => "PRODUCT"
  | skill => "SKILL"
  | location => "LOCATION"
  | address => "ADDRESS"
  | phoneNumber => "PHONE_NUMBER"
  | email => "EMAIL"
  | url => "URL"
  | ip => "IP"
  | dateTime => "DATE_TIME"
  | quantity => "QUANTITY"

/-- The place of a category in the order, from 0. -/
def rank (c : Category) : Nat := c.ctorIdx

/-- The category with a given name, if there is one. -/
def ofName? (s : String) : Option Category := all.find? fun c => c.name = s

/-- A category is read back from its name. -/
@[simp] theorem ofName?_name (c : Category) : ofName? c.name = some c := by
  cases c <;> decide

/-- Only the name of a category is read as that category. -/
theorem name_of_ofName? {s : String} {c : Category} (h : ofName? s = some c) : c.name = s := by
  have := List.find?_some h
  simpa using this

end Category

end EntityGraph
