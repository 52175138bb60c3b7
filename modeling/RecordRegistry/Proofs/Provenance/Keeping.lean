/-
# What parsers keep

A parser reads on in the tokens that it is given and makes up neither names nor places: what is
said of all names and places of the tokens holds of the names in its value, of the items that it
notes and of the place of its error.  `Keeps` states this for one parser as a triple, relative to
the tokens of the scope that it reads; here are the triples for the elementary parsers and for the
ways to combine parsers.
-/

import Mathlib
import RecordRegistry.Declaration
import RecordRegistry.Proofs.Syntax.Running

namespace RecordRegistry

open Std.Do

set_option mvcgen.warning false

/-- The tokens of a scope, and what is said of the names and places in them. -/
structure Ground where
  name : Name → Prop
  /-- What is said besides of a name that may be given to a type: one that is not reserved and has a
  token before it. -/
  type : Name → Prop
  place : Position → Prop
  /-- Whether something has been left over in a group that has been read. -/
  noted : Prop
  whole : List TokenTree
  scope : Scope

namespace Ground

variable {ground : Ground}

/-- What is said of the names of types holds of the names that such a sequence has for them. -/
def Typed (ground : Ground) (trees : List TokenTree) : Prop :=
  ∀ spelling position, .name spelling position ∈ trees.tail → isReserved spelling = false →
    ground.type ⟨spelling, position⟩

mutual

/-- What is said holds of the names and places in a tree. -/
def Tree (ground : Ground) : TokenTree → Prop
  | .name spelling position => ground.name ⟨spelling, position⟩ ∧ ground.place position
  | .mark _ _ position => ground.place position
  | .literal _ position => ground.place position
  | .group _ opening closing content =>
    ground.place opening ∧ ground.place closing ∧ ground.Typed content ∧ Trees ground content

/-- What is said holds of the names and places in a sequence of trees. -/
def Trees (ground : Ground) : List TokenTree → Prop
  | [] => True
  | tree :: rest => Tree ground tree ∧ Trees ground rest

end

theorem trees_iff {trees : List TokenTree} :
    ground.Trees trees ↔ ∀ tree ∈ trees, ground.Tree tree := by
  induction trees with
  | nil => simp [Trees]
  | cons tree rest ih => simp [Trees, ih]

theorem Trees.suffix {few many : List TokenTree} (held : ground.Trees many)
    (last : few <:+ many) : ground.Trees few :=
  trees_iff.mpr fun tree inside => trees_iff.mp held tree (last.subset inside)

theorem Tree.place {tree : TokenTree} (held : ground.Tree tree) : ground.place tree.position := by
  cases tree with
  | name spelling position => exact held.2
  | mark character joint position => exact held
  | literal spelling position => exact held
  | group delimiter opening closing content => exact held.1

/-- What is said holds of the name of the type that an item declares, if it declares one. -/
def Item (ground : Ground) (item : RecordRegistry.Item) : Prop :=
  ∀ name shape, item.declared? = some (name, shape) → ground.type name

/-- What is said holds of the names of a path. -/
def Path (ground : Ground) (path : RecordRegistry.Path) : Prop :=
  ∀ segment ∈ path.segments, ground.name segment.name

/-- What is said holds of the place of the dots, if a pattern is a range without one of its ends. -/
def Pattern (ground : Ground) : RecordRegistry.Pattern → Prop
  | .openRange dots => ground.place dots
  | _ => True

@[simp] theorem pattern_rest : ground.Pattern .rest := trivial

@[simp] theorem pattern_other : ground.Pattern .other := trivial

@[simp] theorem pattern_openRange {dots : Position} :
    ground.Pattern (.openRange dots) ↔ ground.place dots := .rfl

theorem Pattern.either {first second : RecordRegistry.Pattern} (one : ground.Pattern first)
    (other : ground.Pattern second) (condition : Prop) [Decidable condition] :
    ground.Pattern (if condition then first else second) := by
  split
  · exact one
  · exact other

/-- A stream within the scope. -/
structure Held (ground : Ground) (stream : Stream) : Prop where
  trees : ground.Trees ground.whole
  typed : ground.Typed ground.whole
  closing : ground.place ground.scope.closing
  rest : stream.rest <:+ ground.whole
  scope : stream.scope = ground.scope
  stray : ∀ error, stream.stray = some error → ground.place error.position
  noted : ground.noted → stream.stray ≠ none
  found : ∀ item ∈ stream.found, ground.Item item

/-- The ground inside a group. -/
def inside (ground : Ground) (delimiter : Delimiter) (closing : Position)
    (content : List TokenTree) : Ground :=
  { ground with whole := content, scope := ⟨closing, some delimiter⟩ }

mutual

theorem tree_inside {delimiter : Delimiter} {closing : Position} {content : List TokenTree}
    (tree : TokenTree) : (ground.inside delimiter closing content).Tree tree ↔ ground.Tree tree :=
  match tree with
  | .name _ _ | .mark _ _ _ | .literal _ _ => .rfl
  | .group _ _ _ trees => by
      unfold Tree
      rw [trees_inside trees]
      rfl

theorem trees_inside {delimiter : Delimiter} {closing : Position} {content : List TokenTree}
    (trees : List TokenTree) :
    (ground.inside delimiter closing content).Trees trees ↔ ground.Trees trees :=
  match trees with
  | [] => .rfl
  | tree :: rest => by
      unfold Trees
      rw [tree_inside tree, trees_inside rest]

end

namespace Held

variable {stream other : Stream}

theorem rest_trees (held : ground.Held stream) : ground.Trees stream.rest :=
  held.trees.suffix held.rest

theorem position (held : ground.Held stream) : ground.place stream.position := by
  unfold Stream.position
  split
  · next tree rest same =>
      have trees := held.rest_trees
      rw [same] at trees
      exact trees.1.place
  · rw [held.scope]
    exact held.closing

/-- Reading on stays within the scope. -/
theorem withRest {rest : List TokenTree} (held : ground.Held stream)
    (last : rest <:+ stream.rest) : ground.Held { stream with rest } :=
  { held with rest := last.trans held.rest }

/-- The first tree is of the ground, and so is what follows it. -/
theorem cons {tree : TokenTree} {rest : List TokenTree} (held : ground.Held stream)
    (next : stream.rest = tree :: rest) :
    ground.Tree tree ∧ ground.Held { stream with rest } := by
  have trees := held.rest_trees
  rw [next] at trees
  refine ⟨trees.1, held.withRest ?_⟩
  rw [next]
  exact List.suffix_cons tree rest

/-- A group that has been read to its end, or not, leaves the stream behind it. -/
theorem after_inside {delimiter : Delimiter} {closing : Position}
    {content rest : List TokenTree} (outer : ground.Held { stream with rest })
    (inner : (ground.inside delimiter closing content).Held other) :
    ground.Held ⟨rest, stream.scope, other.stray <|> other.leftover?, other.found⟩ := by
  have noted (noted : ground.noted) : (other.stray <|> other.leftover?) ≠ none := by
    have kept := inner.noted noted
    cases stray : other.stray with
    | none => exact absurd stray kept
    | some error => simp
  refine ⟨outer.trees, outer.typed, outer.closing, outer.rest, outer.scope, ?_, noted, inner.found⟩
  intro error noted
  cases stray : other.stray with
  | some first =>
      rw [stray] at noted
      obtain rfl : first = error := Option.some.inj noted
      exact inner.stray first stray
  | none =>
      rw [stray] at noted
      have trees := inner.rest_trees
      cases left : other.rest with
      | nil => simp [Stream.leftover?, left] at noted
      | cons tree onward =>
          rw [left] at trees
          obtain rfl : _ = error := by simpa [Stream.leftover?, left] using noted
          exact ((tree_inside tree).mp trees.1).place

theorem withFound {found : List RecordRegistry.Item} (held : ground.Held stream)
    (kept : ∀ item ∈ found, ground.Item item) : ground.Held { stream with found } :=
  { held with found := kept }

/-- Items that were found earlier or later are of the ground as well. -/
theorem found_append {more : List RecordRegistry.Item} (held : ground.Held stream)
    (kept : ∀ item ∈ more, ground.Item item) : ∀ item ∈ stream.found ++ more, ground.Item item := by
  intro item met
  rcases List.mem_append.mp met with earlier | later
  · exact held.found item earlier
  · exact kept item later

/-- Items that follow those which were found before are of the ground as well. -/
theorem and_found_append {before : Stream} {more : List RecordRegistry.Item}
    (kept : ground.Held stream ∧ ∀ item ∈ more, ground.Item item) (held : ground.Held before) :
    ground.Held stream ∧ ∀ item ∈ before.found ++ more, ground.Item item :=
  ⟨kept.1, held.found_append kept.2⟩

/-- An item can be added to those that were found before. -/
theorem withFound_concat {before : Stream} {item : RecordRegistry.Item}
    (kept : ground.Held stream ∧ ground.Item item) (held : ground.Held before) :
    ground.Held { stream with found := before.found ++ [item] } :=
  kept.1.withFound (held.found_append (by simpa using kept.2))

end Held

end Ground

namespace Parser

variable {α : Type} {ground : Ground}

/-- A parser stays within its scope, and what is said of the tokens holds of its value, in the given
sense, or of the place of its error. -/
abbrev Keeps (ground : Ground) (parser : Parser α) (good : α → Prop) : Prop :=
  ⦃fun stream => ⌜ground.Held stream⌝⦄ parser
  ⦃post⟨fun value stream => ⌜ground.Held stream ∧ good value⌝,
    fun error => ⌜ground.place error.position⌝⟩⦄

/-- A triple says what a parser comes to on every stream. -/
theorem wp_apply (parser : Parser α) (stream : Stream)
    (post : PostCond α (.arg Stream (.except SyntaxError .pure))) :
    wp⟦parser⟧ post stream =
      match parser.run stream with
      | .ok (value, after) => post.1 value after
      | .error error => post.2.1 error := by
  change wp⟦parser.run stream⟧ (fun result => post.1 result.1 result.2, post.2) = _
  cases parser.run stream <;> rfl

theorem keeps_iff {parser : Parser α} {good : α → Prop} :
    Keeps ground parser good ↔
      ∀ stream, ground.Held stream →
        match parser.run stream with
        | .ok (value, after) => ground.Held after ∧ good value
        | .error error => ground.place error.position := by
  unfold Keeps Triple
  simp only [SPred.entails, wp_apply]
  refine forall_congr' fun stream => ?_
  cases parser.run stream <;> simp

theorem Keeps.mono {parser : Parser α} {good better : α → Prop}
    (keeps : Keeps ground parser good) (weaker : ∀ value, good value → better value) :
    Keeps ground parser better := by
  rw [keeps_iff] at keeps ⊢
  intro stream held
  have step := keeps stream held
  split <;> simp_all

@[spec] theorem keeps_failHere (fault : SyntaxFault) :
    Keeps ground (failHere fault : Parser α) fun _ => False :=
  keeps_iff.mpr fun _ held => held.position

@[spec] theorem keeps_failAt {position : Position} (message : String)
    (placed : ground.place position) :
    Keeps ground (failAt position message : Parser α) fun _ => False :=
  keeps_iff.mpr fun _ _ => placed

@[spec] theorem keeps_expectedOneOf (alternatives : List Sought) :
    Keeps ground (expectedOneOf alternatives : Parser α) fun _ => False := by
  mvcgen [expectedOneOf]

@[spec] theorem keeps_here : Keeps ground here ground.place := by
  mvcgen [here]
  exact ⟨‹_›, Ground.Held.position ‹_›⟩

@[spec] theorem keeps_atEnd : Keeps ground atEnd fun _ => True := by
  mvcgen [atEnd]

@[spec] theorem keeps_peek (sought : Sought) : Keeps ground (peek sought) fun _ => True := by
  mvcgen [peek]

@[spec] theorem keeps_peekAny (alternatives : List Sought) :
    Keeps ground (peekAny alternatives) fun _ => True := by
  mvcgen [peekAny]

@[spec] theorem keeps_peekSecond (sought : Sought) :
    Keeps ground (peekSecond sought) fun _ => True := by
  mvcgen [peekSecond]

@[spec] theorem keeps_peekThird (sought : Sought) :
    Keeps ground (peekThird sought) fun _ => True := by
  mvcgen [peekThird]

@[spec] theorem keeps_peekBut (sought except : Sought) :
    Keeps ground (peekBut sought except) fun _ => True := by
  mvcgen [peekBut]

@[spec] theorem keeps_accept (sought : Sought) : Keeps ground (accept sought) fun _ => True := by
  mvcgen [accept]
  exact Ground.Held.withRest ‹_› (List.drop_suffix _ _)

@[spec] theorem keeps_acceptAny (alternatives : List Sought) :
    Keeps ground (acceptAny alternatives) fun _ => True := by
  induction alternatives with
  | nil => mvcgen [acceptAny]
  | cons sought others ih =>
      mvcgen [acceptAny, ih]
      assumption

@[spec] theorem keeps_require (sought : Sought) : Keeps ground (require sought) fun _ => True := by
  refine keeps_iff.mpr fun stream held => ?_
  obtain ⟨atEnd, fault, run⟩ := run_require sought stream
  rw [run]
  cases sought.matched? stream.rest with
  | none => exact held.position
  | some count => exact ⟨held.withRest (List.drop_suffix _ _), trivial⟩

@[spec] theorem keeps_anyName : Keeps ground anyName ground.name := by
  have taken {stream : Stream} {spelling : String} {position : Position} {rest : List TokenTree}
      (held : ground.Held stream) (next : stream.rest = .name spelling position :: rest) :
      ground.Held { stream with rest } ∧ ground.name ⟨spelling, position⟩ :=
    ⟨(held.cons next).2, (held.cons next).1.1⟩
  mvcgen [anyName] with first | exact taken ‹_› ‹_› | simp_all

@[spec] theorem keeps_identifier : Keeps ground identifier ground.name := by
  mvcgen [identifier] with simp_all

/-- A word before a name is a token before it. -/
theorem keeps_word (word : String) :
    ⦃fun stream => ⌜ground.Held stream⌝⦄ require (.word word)
    ⦃post⟨fun _ stream => ⌜ground.Held stream ∧ ∃ tree, tree :: stream.rest <:+ ground.whole⌝,
      fun error => ⌜ground.place error.position⌝⟩⦄ := by
  unfold Triple
  simp only [SPred.entails, wp_apply]
  intro stream held
  obtain ⟨atEnd, fault, run⟩ := run_require (.word word) stream
  rw [run]
  cases there : (Sought.word word).matched? stream.rest with
  | none => exact held.position
  | some count =>
      obtain ⟨position, more, next, rfl⟩ := Sought.exists_of_word there
      refine ⟨held.withRest (List.drop_suffix _ _), .name word position, ?_⟩
      simpa [next] using held.rest

/-- A name that follows a token may be given to a type. -/
theorem keeps_typeName :
    ⦃fun stream => ⌜ground.Held stream ∧ ∃ tree, tree :: stream.rest <:+ ground.whole⌝⦄ identifier
    ⦃post⟨fun name stream => ⌜ground.Held stream ∧ ground.type name⌝,
      fun error => ⌜ground.place error.position⌝⟩⦄ := by
  unfold Triple
  simp only [SPred.entails, wp_apply]
  rintro stream ⟨held, tree, front⟩
  have step := keeps_iff.mp keeps_identifier stream held
  cases ended : identifier.run stream with
  | error error =>
      rw [ended] at step
      exact step
  | ok result =>
      obtain ⟨name, other⟩ := result
      rw [ended] at step
      obtain ⟨next, free⟩ := rest_of_run_identifier ended
      refine ⟨step.1, held.typed _ _ ?_ free⟩
      obtain ⟨before, whole⟩ := front
      rw [← whole, next]
      cases before <;> simp

@[spec] theorem keeps_identifierOr (words : List String) :
    Keeps ground (identifierOr words) ground.name := by
  mvcgen [identifierOr] with assumption

@[spec] theorem keeps_everything : Keeps ground everything fun _ => True := by
  mvcgen [everything]
  exact Ground.Held.withRest ‹_› List.nil_suffix

@[spec] theorem keeps_anyGroup : Keeps ground anyGroup fun _ => True := by
  mvcgen [anyGroup] with first | exact (Ground.Held.cons ‹_› ‹_›).2 | simp_all

/-- Inside a group the ground is its content. -/
theorem keeps_within {delimiter : Delimiter} {parser : Parser α} {good : α → Prop}
    (keeps : ∀ closing content, Keeps (ground.inside delimiter closing content) parser good) :
    Keeps ground (within delimiter parser) good := by
  refine keeps_iff.mpr fun stream held => ?_
  obtain ⟨trees, scope, stray, found⟩ := stream
  cases trees with
  | nil => exact held.position
  | cons tree rest =>
      cases tree with
      | name spelling position => exact held.position
      | mark character joint position => exact held.position
      | literal spelling position => exact held.position
      | group actual opening closing content =>
          by_cases same : actual = delimiter
          · subst same
            obtain ⟨⟨-, placed, typed, trees⟩, onward⟩ := held.cons rfl
            have step := keeps_iff.mp (keeps closing content)
              ⟨content, ⟨closing, some actual⟩, stray, found⟩
              ⟨(Ground.trees_inside _).mpr trees, typed, placed, List.suffix_rfl, rfl, held.stray,
                held.noted, held.found⟩
            rw [run_within]
            cases ended : parser.run ⟨content, ⟨closing, some actual⟩, stray, found⟩ with
            | error error =>
                rw [ended] at step
                exact step
            | ok result =>
                rw [ended] at step
                exact ⟨onward.after_inside step.1, step.2⟩
          · have fails : (within delimiter parser).run
                ⟨.group actual opening closing content :: rest, scope, stray, found⟩ =
                  (failHere (.expected [(Sought.opened delimiter).text])).run
                    ⟨.group actual opening closing content :: rest, scope, stray, found⟩ := by
              simp [within, same]
            rw [fails]
            exact held.position

theorem keeps_ahead? {parser : Parser α} {good : α → Prop} (keeps : Keeps ground parser good) :
    Keeps ground (ahead? parser) fun result =>
      ∀ value stream, result = some (value, stream) → ground.Held stream ∧ good value := by
  refine keeps_iff.mpr fun stream held => ?_
  have step := keeps_iff.mp keeps stream held
  rw [run_ahead?]
  refine ⟨held, fun value after yields => ?_⟩
  cases ended : parser.run stream with
  | error error => simp [ended, Except.toOption] at yields
  | ok result =>
      rw [ended] at step yields
      obtain rfl := Option.some.inj yields
      exact step

theorem keeps_withoutItems {parser : Parser α} {good : α → Prop}
    (keeps : Keeps ground parser good) : Keeps ground (withoutItems parser) good := by
  mvcgen [withoutItems, keeps]
  next before _ _ _ after _ =>
    exact ⟨after.1.withFound before.found, after.2⟩

theorem keeps_withTokens {parser : Parser α} {good : α → Prop} (keeps : Keeps ground parser good) :
    Keeps ground (withTokens parser) fun result => good result.1 := by
  mvcgen [withTokens, keeps]

theorem keeps_repeatUpTo {step : Parser (Option α)} {good : α → Prop}
    (keeps : Keeps ground step fun result => ∀ value, result = some value → good value)
    (count : Nat) :
    Keeps ground (repeatUpTo step count) fun values => ∀ value ∈ values, good value := by
  induction count with
  | zero =>
      mvcgen [repeatUpTo]
      simp_all
  | succ count ih => mvcgen [repeatUpTo, keeps, ih] <;> simp_all

theorem keeps_many {step : Parser (Option α)} {good : α → Prop}
    (keeps : Keeps ground step fun result => ∀ value, result = some value → good value) :
    Keeps ground (many step) fun values => ∀ value ∈ values, good value := by
  have step := keeps_repeatUpTo keeps
  mvcgen [many, step]

theorem keeps_whileHolds {test : Parser Bool} {parser : Parser α} {good : α → Prop}
    (tests : Keeps ground test fun _ => True) (keeps : Keeps ground parser good) :
    Keeps ground (whileHolds test parser) fun values => ∀ value ∈ values, good value := by
  refine keeps_many ?_
  mvcgen [tests, keeps] <;> simp_all

theorem keeps_untilEnd {parser : Parser α} {good : α → Prop} (keeps : Keeps ground parser good) :
    Keeps ground (untilEnd parser) fun values => ∀ value ∈ values, good value := by
  refine keeps_whileHolds ?_ keeps
  mvcgen

theorem keeps_separatedUntil {separator : Sought} {stop : Parser Bool} {parser : Parser α}
    {good : α → Prop} (stops : Keeps ground stop fun _ => True)
    (keeps : Keeps ground parser good) :
    Keeps ground (separatedUntil separator stop parser)
      fun values => ∀ value ∈ values, good value := by
  have step : ∀ count first, Keeps ground (separatedUntil.repeatFrom separator stop parser first count)
      fun values => ∀ value ∈ values, good value := by
    intro count
    induction count with
    | zero =>
        intro first
        mvcgen [separatedUntil.repeatFrom]
        simp_all
    | succ count ih =>
        intro first
        mvcgen [separatedUntil.repeatFrom, stops, keeps, ih] <;> simp_all
  mvcgen [separatedUntil, step]

theorem keeps_joinedUntil {separator : Sought} {stop : Parser Bool} {parser : Parser α}
    {good : α → Prop} (stops : Keeps ground stop fun _ => True)
    (keeps : Keeps ground parser good) :
    Keeps ground (joinedUntil separator stop parser)
      fun values => ∀ value ∈ values, good value := by
  have step : ∀ count, Keeps ground (joinedUntil.joinUpTo separator stop parser count)
      fun values => ∀ value ∈ values, good value := by
    intro count
    induction count with
    | zero =>
        mvcgen [joinedUntil.joinUpTo]
        simp_all
    | succ count ih => mvcgen [joinedUntil.joinUpTo, stops, keeps, ih] <;> simp_all
  mvcgen [joinedUntil, step]

theorem keeps_commaList {parser : Parser α} {good : α → Prop} (keeps : Keeps ground parser good) :
    Keeps ground (commaList parser) fun values => ∀ value ∈ values, good value :=
  keeps_separatedUntil keeps_atEnd keeps

/-- A parser stays within its scope and makes up no places. -/
abbrev Stays (ground : Ground) (parser : Parser α) : Prop := Keeps ground parser fun _ => True

theorem Keeps.stays {parser : Parser α} {good : α → Prop} (keeps : Keeps ground parser good) :
    Stays ground parser :=
  keeps.mono fun _ _ => trivial

@[spec] theorem stays_within {delimiter : Delimiter} {parser : Parser α}
    (stays : ∀ closing content, Stays (ground.inside delimiter closing content) parser) :
    Stays ground (within delimiter parser) :=
  keeps_within stays

@[spec] theorem stays_withoutItems {parser : Parser α} (stays : Stays ground parser) :
    Stays ground (withoutItems parser) :=
  keeps_withoutItems stays

@[spec] theorem stays_withTokens {parser : Parser α} (stays : Stays ground parser) :
    Stays ground (withTokens parser) :=
  keeps_withTokens stays

@[spec] theorem stays_discard {parser : Parser α} (stays : Stays ground parser) :
    Stays ground (discard parser) := by
  change Stays ground ((fun _ => PUnit.unit) <$> parser)
  mvcgen [stays]

@[spec] theorem stays_many {step : Parser (Option α)} (stays : Stays ground step) :
    Stays ground (many step) :=
  (keeps_many (stays.mono fun _ _ _ _ => trivial)).stays

@[spec] theorem stays_whileHolds {test : Parser Bool} {parser : Parser α}
    (tests : Stays ground test) (stays : Stays ground parser) :
    Stays ground (whileHolds test parser) :=
  (keeps_whileHolds tests stays).stays

@[spec] theorem stays_untilEnd {parser : Parser α} (stays : Stays ground parser) :
    Stays ground (untilEnd parser) :=
  (keeps_untilEnd stays).stays

@[spec] theorem stays_separatedUntil {separator : Sought} {stop : Parser Bool} {parser : Parser α}
    (stops : Stays ground stop) (stays : Stays ground parser) :
    Stays ground (separatedUntil separator stop parser) :=
  (keeps_separatedUntil stops stays).stays

@[spec] theorem stays_joinedUntil {separator : Sought} {stop : Parser Bool} {parser : Parser α}
    (stops : Stays ground stop) (stays : Stays ground parser) :
    Stays ground (joinedUntil separator stop parser) :=
  (keeps_joinedUntil stops stays).stays

@[spec] theorem stays_commaList {parser : Parser α} (stays : Stays ground parser) :
    Stays ground (commaList parser) :=
  (keeps_commaList stays).stays

end Parser

end RecordRegistry
