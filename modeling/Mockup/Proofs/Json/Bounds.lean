import Mockup.Proofs.Json.Reader
import Mockup.Proofs.Value.Parts

namespace Mockup

/-!
# What a text can hold

A document that has been read has distinct keys and finite numbers, and its
lists are not longer than the text allows.  The bound grows by one with every
move of the reader, and a character makes at most two moves.
-/

namespace Value

/-- A value as a text yields it, with lists of limited length. -/
def Fits
    (limit : Nat) : Value → Prop
  | .list items =>
      items.length ≤ limit
  | .map fields =>
      (Entries.names fields).Nodup
  | .float number =>
      number.isNaN = false
  | _ =>
      True

theorem Fits.mono
    {limit greater : Nat}
    (le : limit ≤ greater)
    {value : Value}
    (fits : Fits limit value) :
    Fits greater value := by
  cases value with
  | list items =>
      exact Nat.le_trans fits le
  | null | bool _ | int _ | float _ | string _ | map _ =>
      exact fits

/-- A value with short lists is sound. -/
theorem sound_of_fits
    {limit : Nat}
    (isWord : limit < positionLimit)
    {value : Value}
    (fits : Throughout (Fits limit) value) :
    Sound value := by
  refine fits.weaken fun part partFits => ?_
  cases part with
  | list items =>
      exact Nat.lt_of_le_of_lt partFits isWord
  | map fields =>
      exact partFits
  | null | bool _ | int _ | float _ | string _ =>
      trivial

/-- A value as a text yields it has only numbers in it. -/
theorem nanFree_of_fits
    {limit : Nat}
    {value : Value}
    (fits : Throughout (Fits limit) value) :
    NaNFree value := by
  refine fits.weaken fun part partFits => ?_
  cases part with
  | float number =>
      exact partFits
  | null | bool _ | int _ | string _ | list _ | map _ =>
      trivial

/-! ## Values of trees -/

theorem ofJsonItems_eq_map
    (items : List Json) :
    ofJsonItems items = items.map ofJson := by
  induction items with
  | nil =>
      rfl
  | cons item items inductionHypothesis =>
      simp [ofJsonItems, inductionHypothesis]

theorem ofJsonFields_eq_map
    (fields : List (String × Json)) :
    ofJsonFields fields =
      fields.map fun entry => (entry.1, ofJson entry.2) := by
  induction fields with
  | nil =>
      rfl
  | cons entry fields inductionHypothesis =>
      simp [ofJsonFields, inductionHypothesis]

/-- A plain part fits every limit. -/
theorem fits_of_isPlain
    {part : Json}
    (plain : part.IsPlain)
    (limit : Nat) :
    Throughout (Fits limit) (ofJson part) := by
  cases part with
  | null | bool _ | string _ =>
      simp [ofJson, Fits]
  | integer number =>
      simp only [ofJson, ofInteger]
      split
      · simp [Fits]
      · simp [Fits, Double.ofInt, Double.ofRatio, Double.ofUnits,
          Double.ofRank, Double.isNaN]
  | number double =>
      cases double with
      | nan =>
          simp [Json.IsPlain, Double.isFinite] at plain
      | ranked negative rank =>
          simp [ofJson, Fits, Double.isNaN]
  | array _ | object _ =>
      exact plain.elim

end Value

namespace Json

open Value (Throughout Fits)

/-- A tree of which the value has lists of limited length. -/
def FitsWithin
    (limit : Nat)
    (part : Json) :
    Prop :=
  Throughout (Fits limit) (Value.ofJson part)

theorem FitsWithin.mono
    {limit greater : Nat}
    (le : limit ≤ greater)
    {part : Json}
    (fits : part.FitsWithin limit) :
    part.FitsWithin greater :=
  fits.weaken fun _ => Fits.mono le

/-- A container fits when its parts do and are few enough. -/
theorem Frame.fitsWithin_tree
    {limit : Nat}
    {frame : Frame}
    (few : frame.parts.length ≤ limit)
    (parts : ∀ part ∈ frame.parts, part.FitsWithin limit) :
    frame.tree.FitsWithin limit := by
  cases frame with
  | array reversed =>
      simp only [FitsWithin, Frame.tree, Value.ofJson,
        Value.ofJsonItems_eq_map, Throughout.list_iff]
      refine ⟨by simpa [Fits, Frame.parts] using few, ?_⟩
      intro item member
      obtain ⟨part, inReversed, rfl⟩ := List.mem_map.mp member
      exact parts part (List.mem_reverse.mp inReversed)
  | object reversed key =>
      simp only [FitsWithin, Frame.tree, Value.ofJson,
        Value.ofJsonFields_eq_map, Throughout.map_iff]
      refine ⟨Entries.nodup_names_ofList _, ?_⟩
      intro entry member
      have inFields := Entries.mem_of_mem_ofList member
      obtain ⟨field, inReversed, rfl⟩ := List.mem_map.mp inFields
      exact parts field.2
        (List.mem_map.mpr ⟨field, List.mem_reverse.mp inReversed, rfl⟩)

namespace Reader

/-- The open containers and what the mode holds fit a limit. -/
structure Keeps
    (limit : Nat)
    (reader : Reader) :
    Prop where
  few :
    ∀ frame ∈ reader.stack, frame.parts.length ≤ limit
  parts :
    ∀ frame ∈ reader.stack,
      ∀ part ∈ frame.parts, part.FitsWithin limit
  held :
    ∀ part ∈ reader.mode.held, part.FitsWithin limit

namespace Keeps

variable {limit : Nat}

theorem start
    (limit : Nat) :
    Keeps limit Reader.start where
  few := by
    simp [Reader.start]
  parts := by
    simp [Reader.start]
  held := by
    simp [Reader.start, Mode.held]

theorem mono
    {greater : Nat}
    (le : limit ≤ greater)
    {reader : Reader}
    (keeps : Keeps limit reader) :
    Keeps greater reader where
  few frame member :=
    Nat.le_trans (keeps.few frame member) le
  parts frame member part inFrame :=
    (keeps.parts frame member part inFrame).mono le
  held part member :=
    (keeps.held part member).mono le

theorem knows
    {stack : List Frame}
    {mode : Mode}
    (keeps : Keeps limit ⟨stack, mode⟩)
    {part : Json}
    (known : mode.Knows part) :
    part.FitsWithin limit := by
  rcases known with isHeld | isPlain
  · exact keeps.held part isHeld
  · exact Value.fits_of_isPlain isPlain limit

/-- Completing a part lengthens the innermost container by one. -/
theorem finishPart
    {stack : List Frame}
    (few : ∀ frame ∈ stack, frame.parts.length ≤ limit)
    (parts :
      ∀ frame ∈ stack, ∀ part ∈ frame.parts, part.FitsWithin limit)
    {part : Json}
    (fits : part.FitsWithin limit) :
    Keeps (limit + 1) (Reader.finishPart stack part) := by
  have le : limit ≤ limit + 1 :=
    Nat.le_succ limit
  cases stack with
  | nil =>
      refine ⟨by simp [Reader.finishPart],
        by simp [Reader.finishPart], ?_⟩
      intro other member
      obtain rfl : other = part := by
        simpa [Reader.finishPart, Mode.held] using member
      exact fits.mono le
  | cons frame outer =>
      refine ⟨?_, ?_, by simp [Reader.finishPart, Mode.held]⟩
      · intro other member
        rcases List.mem_cons.mp member with rfl | inOuter
        · simpa using few frame (by simp)
        · exact Nat.le_trans
            (few other (List.mem_cons_of_mem _ inOuter)) le
      · intro other member inner inOther
        rcases List.mem_cons.mp member with rfl | inOuter
        · rw [Frame.parts_add] at inOther
          rcases List.mem_cons.mp inOther with rfl | inFrame
          · exact fits.mono le
          · exact (parts frame (by simp) inner inFrame).mono le
        · exact (parts other (List.mem_cons_of_mem _ inOuter)
            inner inOther).mono le

/-- A move of the reader raises the limit by at most one. -/
theorem of_moves
    {reader next : Reader}
    (moves : Moves reader next)
    (keeps : Keeps limit reader) :
    Keeps (limit + 1) next := by
  have le : limit ≤ limit + 1 :=
    Nat.le_succ limit
  cases moves with
  | rest =>
      exact keeps.mono le
  | within _ known =>
      have raised := keeps.mono le
      exact ⟨raised.few, raised.parts,
        fun part member => raised.knows (known part member)⟩
  | @opened stack mode next frame isEmpty _ holdsNone =>
      have raised := keeps.mono le
      refine ⟨?_, ?_, by simp [holdsNone]⟩
      · simpa [isEmpty] using raised.few
      · simpa [isEmpty] using raised.parts
  | named =>
      have raised := keeps.mono le
      refine ⟨?_, ?_, by simp [Mode.held]⟩
      · simpa [Frame.parts] using raised.few
      · simpa [Frame.parts] using raised.parts
  | finished known =>
      exact finishPart keeps.few keeps.parts (keeps.knows known)
  | @closed outer mode frame =>
      have fits : frame.tree.FitsWithin limit :=
        Frame.fitsWithin_tree (keeps.few frame (by simp))
          (keeps.parts frame (by simp))
      exact finishPart
        (fun other member =>
          keeps.few other (List.mem_cons_of_mem _ member))
        (fun other member =>
          keeps.parts other (List.mem_cons_of_mem _ member))
        fits

/-- A character raises the limit by at most two. -/
theorem of_step?
    {demands : Demands}
    {reader next : Reader}
    {char : Char}
    (stepped : reader.step? demands char = some next)
    (keeps : Keeps limit reader) :
    Keeps (limit + 2) next := by
  rcases moves_of_step? stepped with once | ⟨part, _, first, second⟩
  · exact (of_moves once keeps).mono (Nat.le_succ _)
  · exact of_moves second (of_moves first keeps)

/-- A text raises the limit by at most twice its length. -/
theorem of_run?
    {demands : Demands}
    {chars : List Char}
    {reader final : Reader}
    (ran : reader.run? demands chars = some final)
    (keeps : Keeps limit reader) :
    Keeps (limit + 2 * chars.length) final := by
  induction chars generalizing reader limit with
  | nil =>
      obtain rfl : reader = final := by
        simpa [run?] using ran
      exact keeps
  | cons char chars inductionHypothesis =>
      cases stepped : reader.step? demands char with
      | none =>
          simp [run?, stepped] at ran
      | some next =>
          have ranOn : next.run? demands chars = some final := by
            simpa [run?, stepped] using ran
          have reached := inductionHypothesis ranOn (of_step? stepped keeps)
          refine reached.mono ?_
          simp only [List.length_cons]
          omega

/-- What has been read when the text ends fits the limit. -/
theorem of_finish
    {reader : Reader}
    (keeps : Keeps limit reader)
    {document : Json}
    (finished : reader.finish = .ok document) :
    document.FitsWithin limit := by
  unfold Reader.finish at finished
  split at finished
  · rename_i done isDone
    cases finished
    exact keeps.held document (by simp [isDone, Mode.held])
  · split at finished
    · split at finished
      · rename_i named _
        cases finished
        exact Value.fits_of_isPlain
          (NumberToken.isPlain_of_tree? named) limit
      · cases finished
      · cases finished
    · cases finished
  · cases finished

end Keeps

end Reader

/-- A text has no list in it that is longer than twice the text. -/
theorem fitsWithin_of_read
    {text : String}
    {document : Json}
    (reads : read text = .ok document) :
    document.FitsWithin (2 * text.toList.length) := by
  unfold read readWith at reads
  split at reads
  · rename_i final ran
    have kept := Reader.Keeps.of_run? ran (Reader.Keeps.start 0)
    simpa using kept.of_finish reads
  · cases reads

end Json

end Mockup
