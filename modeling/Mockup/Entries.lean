namespace Mockup

/-!
# Entries in insertion order

Objects of a document, registries of an application and the results of
requests are all lists of named entries.  The order is the order of first
insertion: writing a name that is already present keeps its position, and
removing a name closes the gap.
-/

/-- Named entries, oldest first. -/
abbrev Entries (α : Type) := List (String × α)

namespace Entries

/-- The entry called `name`, if there is one. -/
def get?
    (entries : Entries α)
    (name : String) :
    Option α :=
  match entries with
  | [] =>
      none
  | (key, value) :: rest =>
      if key = name then
        some value
      else
        get? rest name

/-- Whether some entry is called `name`. -/
def contains
    (entries : Entries α)
    (name : String) :
    Bool :=
  (get? entries name).isSome

/-- Write an entry: in place when the name is present, at the end otherwise. -/
def insert
    (entries : Entries α)
    (name : String)
    (value : α) :
    Entries α :=
  match entries with
  | [] =>
      [(name, value)]
  | (key, old) :: rest =>
      if key = name then
        (key, value) :: rest
      else
        (key, old) :: insert rest name value

/-- Write an entry when there is a value for it. -/
def insertSome
    (entries : Entries α)
    (name : String) :
    Option α → Entries α
  | some value =>
      insert entries name value
  | none =>
      entries

/-- Remove the entry called `name`, keeping the order of the others. -/
def erase
    (entries : Entries α)
    (name : String) :
    Entries α :=
  match entries with
  | [] =>
      []
  | (key, value) :: rest =>
      if key = name then
        rest
      else
        (key, value) :: erase rest name

/-- The names, oldest first. -/
def names
    (entries : Entries α) :
    List String :=
  entries.map Prod.fst

/-- The values, in the order of their names. -/
def values
    (entries : Entries α) :
    List α :=
  entries.map Prod.snd

/-- Write every entry of `later` over `earlier`, in order. -/
def extend
    (earlier later : Entries α) :
    Entries α :=
  later.foldl
    (fun entries entry => insert entries entry.1 entry.2) earlier

/--
Entries read from a list that may repeat a name: a repeated name keeps its
first position and takes its last value.
-/
def ofList
    (items : List (String × α)) :
    Entries α :=
  extend [] items

/-- Put one entry before the first entry with a greater name. -/
def insertSorted
    (entry : String × α) :
    Entries α → Entries α
  | [] =>
      [entry]
  | head :: rest =>
      if entry.1 < head.1 then
        entry :: head :: rest
      else
        head :: insertSorted entry rest

/-- The same entries with their names in ascending order of code points. -/
def sorted
    (entries : Entries α) :
    Entries α :=
  entries.foldr insertSorted []

end Entries

end Mockup
