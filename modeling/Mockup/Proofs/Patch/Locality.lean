import Mockup.Patch.Apply
import Mockup.Patch.Diff
import Mockup.Proofs.Entries
import Mockup.Proofs.Patch.Pointer

namespace Mockup

/-!
# Patches act in one place

A patch whose pointer leads through a place changes the value at that place
and nothing else.  `Path.put` exchanges the value at a place, and a list of
patches *turns* one value into another at a place when it amounts to that
exchange in every document.  What is turned inside a part is turned inside
the container, so patches for parts compose to patches for the whole.
-/

namespace Path

/-! ## One step down -/

/--
A segment leads into a container: to one of its parts, which can be exchanged
for another value.
-/
inductive Leads :
    Value → String → Value → (Value → Value) → Prop where
  | field
      {fields : Entries Value}
      {key : String}
      {part : Value} :
      Entries.get? fields key = some part →
      Leads (.map fields) key part
        fun value => .map (Entries.insert fields key value)
  | item
      {items : List Value}
      {segment : String}
      {index : Nat}
      {part : Value} :
      Text.ordinal? segment = some index →
      items[index]? = some part →
      Leads (.list items) segment part
        fun value => .list (items.set index value)

/-- A part is reached exactly through a step into its container. -/
theorem child?_eq_some_iff
    {root part : Value}
    {segment : String} :
    child? root segment = some part ↔
      ∃ exchange, Leads root segment part exchange := by
  constructor
  · intro reached
    cases root with
    | map fields =>
        exact ⟨_, .field reached⟩
    | list items =>
        cases named : Text.ordinal? segment with
        | none =>
            simp [child?, named] at reached
        | some index =>
            exact ⟨_, .item named (by simpa [child?, named] using reached)⟩
    | null | bool _ | int _ | float _ | string _ =>
        simp [child?] at reached
  · rintro ⟨exchange, leads⟩
    cases leads with
    | field found =>
        exact found
    | item named found =>
        simpa [child?, named] using found

namespace Leads

/-- After an exchange the same step leads to the new part. -/
theorem exchanged
    {root part : Value}
    {segment : String}
    {exchange : Value → Value}
    (leads : Leads root segment part exchange)
    (value : Value) :
    Leads (exchange value) segment value exchange := by
  cases leads with
  | @field fields _ _ _ =>
      have again :
          Leads (.map (Entries.insert fields segment value)) segment value
            fun next =>
              .map (Entries.insert
                (Entries.insert fields segment value) segment next) :=
        .field (Entries.get?_insert_same fields segment value)
      simpa using again
  | @item items _ index _ named found =>
      have inside : index < items.length :=
        (List.getElem?_eq_some_iff.mp found).1
      have again :
          Leads (.list (items.set index value)) segment value
            fun next => .list ((items.set index value).set index next) :=
        .item named (by simp [inside])
      simpa using again

theorem exchange_part
    {root part : Value}
    {segment : String}
    {exchange : Value → Value}
    (leads : Leads root segment part exchange) :
    exchange part = root := by
  cases leads with
  | field found =>
      simp [Entries.insert_found found]
  | item _ found =>
      obtain ⟨inside, rfl⟩ := List.getElem?_eq_some_iff.mp found
      simp

end Leads

/-! ## Exchanging the value at a place -/

/-- The tree with the value at a place exchanged, if the place is there. -/
def put
    (root : Value)
    (place : List String)
    (value : Value) :
    Value :=
  match place with
  | [] =>
      value
  | segment :: rest =>
      match root with
      | .map fields =>
          match Entries.get? fields segment with
          | some part =>
              .map (Entries.insert fields segment (put part rest value))
          | none =>
              .map fields
      | .list items =>
          match item? items segment with
          | some (index, part) =>
              .list (items.set index (put part rest value))
          | none =>
              .list items
      | other =>
          other

theorem put_cons
    {root part : Value}
    {segment : String}
    {exchange : Value → Value}
    (leads : Leads root segment part exchange)
    (rest : List String)
    (value : Value) :
    put root (segment :: rest) value =
      exchange (put part rest value) := by
  cases leads with
  | field found =>
      simp [put, found]
  | item named found =>
      simp [put, item?, named, found]

theorem resolve?_cons
    {root part : Value}
    {segment : String}
    {exchange : Value → Value}
    (leads : Leads root segment part exchange)
    (rest : List String) :
    resolve? root (segment :: rest) = resolve? part rest := by
  have reached := child?_eq_some_iff.mpr ⟨_, leads⟩
  simp [resolve?, reached]

/-- A place below a segment is there only behind a step down. -/
theorem exists_leads_of_resolve?
    {root value : Value}
    {segment : String}
    {rest : List String}
    (resolved : resolve? root (segment :: rest) = some value) :
    ∃ part exchange,
      Leads root segment part exchange ∧
        resolve? part rest = some value := by
  cases reached : child? root segment with
  | none =>
      simp [resolve?, reached] at resolved
  | some part =>
      obtain ⟨exchange, leads⟩ := child?_eq_some_iff.mp reached
      exact ⟨part, exchange, leads,
        by simpa [resolve?, reached] using resolved⟩

/-- Resolving a longer place goes on from where a shorter one leads. -/
theorem resolve?_append
    (root : Value)
    (place further : List String) :
    resolve? root (place ++ further) =
      (resolve? root place).bind fun part => resolve? part further := by
  induction place generalizing root with
  | nil =>
      rfl
  | cons segment rest inductionHypothesis =>
      cases reached : child? root segment with
      | none =>
          simp [resolve?, reached]
      | some part =>
          simp [resolve?, reached, inductionHypothesis]

/-- A value that was put at a place is found there. -/
theorem resolve?_put
    {root before : Value}
    {place : List String}
    (resolved : resolve? root place = some before)
    (value : Value) :
    resolve? (put root place value) place = some value := by
  induction place generalizing root with
  | nil =>
      rfl
  | cons segment rest inductionHypothesis =>
      obtain ⟨part, exchange, leads, below⟩ :=
        exists_leads_of_resolve? resolved
      rw [put_cons leads, resolve?_cons (leads.exchanged _)]
      exact inductionHypothesis below

theorem put_put
    {root before : Value}
    {place : List String}
    (resolved : resolve? root place = some before)
    (first second : Value) :
    put (put root place first) place second = put root place second := by
  induction place generalizing root with
  | nil =>
      rfl
  | cons segment rest inductionHypothesis =>
      obtain ⟨part, exchange, leads, below⟩ :=
        exists_leads_of_resolve? resolved
      rw [put_cons leads, put_cons (leads.exchanged _), put_cons leads,
        inductionHypothesis below]

theorem put_self
    {root value : Value}
    {place : List String}
    (resolved : resolve? root place = some value) :
    put root place value = root := by
  induction place generalizing root with
  | nil =>
      simpa [resolve?, put] using resolved.symm
  | cons segment rest inductionHypothesis =>
      obtain ⟨part, exchange, leads, below⟩ :=
        exists_leads_of_resolve? resolved
      rw [put_cons leads, inductionHypothesis below, leads.exchange_part]

/-- Putting a value below a place exchanges the value at the place. -/
theorem put_append
    {root middle : Value}
    {place : List String}
    (resolved : resolve? root place = some middle)
    (further : List String)
    (value : Value) :
    put root (place ++ further) value =
      put root place (put middle further value) := by
  induction place generalizing root with
  | nil =>
      obtain rfl : root = middle := by
        simpa [resolve?] using resolved
      rfl
  | cons segment rest inductionHypothesis =>
      obtain ⟨part, exchange, leads, below⟩ :=
        exists_leads_of_resolve? resolved
      rw [List.cons_append, put_cons leads, put_cons leads,
        inductionHypothesis below]

end Path

namespace Patch

/-! ## Editing at a place -/

/-- An edit at a place that is there exchanges the value for the edited one. -/
theorem editAt?_eq_some
    {document part : Value}
    {place : List String}
    (resolved : Path.resolve? document place = some part)
    (edit : Value → Edited α) :
    editAt? document place edit =
      some ⟨Path.put document place (edit part).document,
        (edit part).outcome⟩ := by
  induction place generalizing document with
  | nil =>
      obtain rfl : document = part := by
        simpa [Path.resolve?] using resolved
      simp [editAt?, Path.put]
  | cons segment rest inductionHypothesis =>
      obtain ⟨child, exchange, leads, below⟩ :=
        Path.exists_leads_of_resolve? resolved
      rw [Path.put_cons leads]
      cases leads with
      | field found =>
          simp [editAt?, found, inductionHypothesis below]
      | item named found =>
          simp [editAt?, Path.item?, named, found,
            inductionHypothesis below]

/-- What names a part is edited in the container of that part. -/
theorem editHolder_eq
    {document container : Value}
    {path last : String}
    {place : List String}
    (tokens : Pointer.tokens path = place ++ [last])
    (resolved : Path.resolve? document place = some container)
    (whenRoot : Edited α)
    (edit : String → Value → Edited α) :
    editHolder document path whenRoot edit =
      ⟨Path.put document place (edit last container).document,
        (edit last container).outcome⟩ := by
  simp [editHolder, tokens, editAt?_eq_some resolved]

/-! ## Lists of patches -/

/-- Applying two lists of patches applies the second where the first led. -/
theorem applyAll_append
    {document middle : Value}
    {first : List Patch}
    (applied : applyAll document first = .ok middle)
    (second : List Patch) :
    applyAll document (first ++ second) = applyAll middle second := by
  induction first generalizing document with
  | nil =>
      obtain rfl : document = middle := by
        simpa [applyAll] using applied
      rfl
  | cons patch rest inductionHypothesis =>
      simp only [List.cons_append, applyAll] at applied ⊢
      cases outcome : (apply document patch).outcome with
      | ok done =>
          rw [outcome] at applied
          exact inductionHypothesis applied
      | error failure =>
          rw [outcome] at applied
          simp at applied

/--
In every document that holds `before` at the place, the patches succeed and
exchange it for `after`.
-/
def Turns
    (place : List String)
    (patches : List Patch)
    (before after : Value) :
    Prop :=
  ∀ document,
    Path.resolve? document place = some before →
      applyAll document patches = .ok (Path.put document place after)

namespace Turns

variable {place : List String}

theorem nil
    (value : Value) :
    Turns place [] value value := by
  intro document resolved
  simp [applyAll, Path.put_self resolved]

/-- Patches one after another turn a value by way of the one between. -/
theorem append
    {first second : List Patch}
    {before between after : Value}
    (firstTurns : Turns place first before between)
    (secondTurns : Turns place second between after) :
    Turns place (first ++ second) before after := by
  intro document resolved
  rw [applyAll_append (firstTurns document resolved),
    secondTurns _ (Path.resolve?_put resolved between),
    Path.put_put resolved]

/-- What turns a part turns the container of that part. -/
theorem inside
    {patches : List Patch}
    {container part after : Value}
    {segment : String}
    {exchange : Value → Value}
    (leads : Path.Leads container segment part exchange)
    (turns : Turns (place ++ [segment]) patches part after) :
    Turns place patches container (exchange after) := by
  intro document resolved
  have partResolved :
      Path.resolve? document (place ++ [segment]) = some part := by
    rw [Path.resolve?_append, resolved]
    exact Path.resolve?_cons leads []
  rw [turns document partResolved, Path.put_append resolved,
    Path.put_cons leads]
  rfl

/-- Applying at the root what turns a document at the root. -/
theorem applyAll_eq
    {patches : List Patch}
    {document after : Value}
    (turns : Turns [] patches document after) :
    applyAll document patches = .ok after := by
  simpa [Path.put] using turns document rfl

/-! ## Single patches -/

/-- An addition turns the container that it succeeds in. -/
theorem adding
    {path last : String}
    {value container after : Value}
    (tokens : Pointer.tokens path = place ++ [last])
    (added : addPart path value last container = .done after) :
    Turns place [Patch.adding path value] container after := by
  intro document resolved
  have edited :
      add document path value = .done (Path.put document place after) := by
    rw [add, editHolder_eq tokens resolved, added]
    rfl
  simp [applyAll, apply, Patch.adding, operand, edited, Edited.done]

theorem removing
    {path last : String}
    {removed container after : Value}
    (tokens : Pointer.tokens path = place ++ [last])
    (taken : removePart path last container = ⟨after, .ok removed⟩) :
    Turns place [Patch.removing path] container after := by
  intro document resolved
  have edited :
      remove document path =
        ⟨Path.put document place after, .ok removed⟩ := by
    rw [remove, editHolder_eq tokens resolved, taken]
  simp [applyAll, apply, Patch.removing, edited, Except.map]

/-- A replacement in a container turns the container that it succeeds in. -/
theorem replacing_part
    {path last : String}
    {value container after : Value}
    (tokens : Pointer.tokens path = place ++ [last])
    (written : replacePart path value last container = .done after) :
    Turns place [Patch.replacing path value] container after := by
  intro document resolved
  have edited :
      replace document path value =
        .done (Path.put document place after) := by
    rw [replace, editHolder_eq tokens resolved, written]
    rfl
  simp [applyAll, apply, Patch.replacing, operand, edited, Edited.done]

/-- A replacement turns whatever is at its own place into its value. -/
theorem replacing
    (path : String)
    (before after : Value) :
    Turns (Pointer.tokens path) [Patch.replacing path after]
      before after := by
  rcases List.eq_nil_or_concat (Pointer.tokens path) with
      isRoot | ⟨place, last, shape⟩
  · rw [isRoot]
    intro document _
    simp [applyAll, apply, Patch.replacing, operand, replace, editHolder,
      isRoot, Edited.done, Path.put]
  · rw [List.concat_eq_append] at shape
    intro document resolved
    rw [shape] at resolved ⊢
    rw [Path.resolve?_append] at resolved
    obtain ⟨container, atPlace, below⟩ :=
      Option.bind_eq_some_iff.mp resolved
    obtain ⟨part, exchange, leads, _⟩ :=
      Path.exists_leads_of_resolve? below
    have written :
        replacePart path after last container =
          .done (exchange after) := by
      cases leads with
      | field _ =>
          rfl
      | item named found =>
          have inside := (List.getElem?_eq_some_iff.mp found).1
          simp [replacePart, named, inside]
    rw [replacing_part shape written document atPlace,
      Path.put_append atPlace, Path.put_cons leads]
    rfl

/-! ## Patches for the parts of a container -/

variable {path : String} (anchored : Pointer.IsAnchored path)

include anchored

/-- Adding a key to a map writes it. -/
theorem adding_field
    (fields : Entries Value)
    (key : String)
    (value : Value) :
    Turns (Pointer.tokens path)
      [Patch.adding (Pointer.child path key) value]
      (.map fields) (.map (Entries.insert fields key value)) :=
  adding (Pointer.tokens_child anchored key) rfl

theorem removing_field
    {fields : Entries Value}
    {key : String}
    {value : Value}
    (found : Entries.get? fields key = some value) :
    Turns (Pointer.tokens path)
      [Patch.removing (Pointer.child path key)]
      (.map fields) (.map (Entries.erase fields key)) := by
  have taken :
      removePart (Pointer.child path key) key (.map fields) =
        ⟨.map (Entries.erase fields key), .ok value⟩ := by
    simp [removePart, found]
  exact removing (Pointer.tokens_child anchored key) taken

/-- Adding an item just behind a list makes it the last one. -/
theorem adding_item
    {items : List Value}
    (isWord : items.length < Nat.pow 2 64)
    (value : Value) :
    Turns (Pointer.tokens path)
      [Patch.adding (Pointer.item path items.length) value]
      (.list items) (.list (items ++ [value])) := by
  rw [Pointer.item_eq_child]
  refine adding (Pointer.tokens_child anchored _) ?_
  have named := Text.ordinal?_toString isWord
  have noDash : toString items.length ≠ "-" := by
    intro isDash
    rw [isDash] at named
    simp [Text.ordinal?, Text.withoutPlus] at named
  simp only [addPart, if_neg noDash, named, Nat.le_refl, if_true,
    List.insertIdx_length_self]

theorem removing_item
    {items : List Value}
    (isWord : items.length < Nat.pow 2 64)
    (value : Value) :
    Turns (Pointer.tokens path)
      [Patch.removing (Pointer.item path items.length)]
      (.list (items ++ [value])) (.list items) := by
  rw [Pointer.item_eq_child]
  have named := Text.ordinal?_toString isWord
  have taken :
      removePart (Pointer.child path (toString items.length))
          (toString items.length) (.list (items ++ [value])) =
        ⟨.list items, .ok value⟩ := by
    simp only [removePart, named]
    simp [List.eraseIdx_append_of_length_le]
  exact removing (Pointer.tokens_child anchored _) taken

end Turns

end Patch

end Mockup
