/-
# What the productions of patterns and signatures keep

Patterns and the heads of functions keep names and places, given that the productions that they
refer to do.  Of a range pattern the place of its dots is kept, of a receiver the place of
its name, and of a signature the name of the function.
-/

import Mathlib
import RecordRegistry.Syntax.Signature
import RecordRegistry.Proofs.Provenance.Type

namespace RecordRegistry

open Std.Do

set_option mvcgen.warning false

namespace Parser

variable {ground : Ground} {grammar : Grammar}

@[spec] theorem stays_member : Stays ground member := by
  have placed {stream : Stream} {tree : TokenTree} {rest : List TokenTree}
      (next : stream.rest = tree :: rest) (held : ground.Held stream) : ground.place tree.position :=
    (held.cons next).1.place
  mvcgen [member] with simp_all
  all_goals
    intro _ _
    exact placed ‹_› ‹_›

@[spec] theorem stays_rangeDots : Stays ground rangeDots := by
  mvcgen [rangeDots] with simp_all

@[spec] theorem stays_patternDots : Stays ground patternDots := by
  mvcgen [patternDots] with simp_all

variable [grammar.Keeps]

@[spec] theorem stays_constantBlock : Stays ground (constantBlock grammar) := by
  mvcgen [constantBlock] with simp_all

@[spec] theorem stays_patternEnd : Stays ground (patternEnd grammar) := by
  mvcgen [patternEnd] with simp_all

@[spec] theorem stays_upperEnd (inclusive : Bool) : Stays ground (upperEnd grammar inclusive) := by
  mvcgen [upperEnd] with simp_all

@[spec] theorem keeps_patternRange : Keeps ground (patternRange grammar) ground.Pattern := by
  mvcgen [patternRange] with simp_all
  exact .either (by simp) (by simp_all) _

@[spec] theorem keeps_patternAlternatives :
    Keeps ground (patternAlternatives grammar) ground.Pattern := by
  mvcgen [patternAlternatives] with simp_all
  exact .either (by simp) (by simp_all) _

@[spec] theorem stays_fieldPattern : Stays ground (fieldPattern grammar) := by
  mvcgen [fieldPattern] with simp_all

@[spec] theorem stays_fieldPatterns : Stays ground (fieldPatterns grammar) := by
  mvcgen [fieldPatterns] with simp_all

@[spec] theorem keeps_pathPattern : Keeps ground (pathPattern grammar) ground.Pattern := by
  mvcgen [pathPattern] with simp_all

@[spec] theorem keeps_literalPattern : Keeps ground (literalPattern grammar) ground.Pattern := by
  mvcgen [literalPattern] with simp_all

@[spec] theorem keeps_namePattern : Keeps ground (namePattern grammar) ground.Pattern := by
  mvcgen [namePattern] with simp_all

@[spec] theorem stays_slicePatterns : Stays ground (slicePatterns grammar) := by
  mvcgen [slicePatterns] with simp_all

@[spec] theorem keeps_dotsPattern : Keeps ground (dotsPattern grammar) ground.Pattern := by
  mvcgen [dotsPattern] with simp_all
  exact .either (by simp_all) (by simp) _

@[spec] theorem stays_peekPathPattern : Stays ground peekPathPattern := by
  mvcgen [peekPathPattern] with simp_all

@[spec] theorem keeps_pattern : Keeps ground (pattern grammar) ground.Pattern := by
  have boxed : Keeps ground (withoutItems do
      let _ ← grammar.pattern
      return Pattern.other) ground.Pattern := by
    refine keeps_withoutItems ?_
    mvcgen with simp_all
  mvcgen [pattern, boxed, -stays_withoutItems] with simp_all

@[spec] theorem stays_restriction : Stays ground restriction := by
  mvcgen [restriction] with simp_all

@[spec] theorem stays_visibility : Stays ground visibility := by
  mvcgen [visibility] with simp_all

@[spec] theorem stays_peekSignature (safe : Bool) : Stays ground (peekSignature safe) := by
  have head : Stays ground (do
      let _ ← accept (.word "const")
      let _ ← accept (.word "async")
      let qualified ← if safe then accept (.word "safe") else pure false
      unless qualified do
        let _ ← accept (.word "unsafe")
      let _ ← convention
      peek (.word "fn")) := by
    mvcgen with simp_all
  have ahead := keeps_ahead? head
  mvcgen [peekSignature, ahead] with simp_all

@[spec] theorem keeps_receiver : Keeps ground (receiver grammar) ground.place := by
  mvcgen [receiver] with simp_all

/-- The name of a receiver stands at a place of the ground. -/
def FunctionArgument.Placed (ground : Ground) : FunctionArgument → Prop
  | .receiver position => ground.place position
  | _ => True

@[spec] theorem keeps_functionArgument :
    Keeps ground (functionArgument grammar) (FunctionArgument.Placed ground) := by
  have self : Keeps ground (receiver grammar) ground.place := keeps_receiver
  have ahead := keeps_ahead? self
  mvcgen [functionArgument, ahead] with simp_all [FunctionArgument.Placed]

theorem stays_functionArgumentsFrom (first received : Bool) (count : Nat) :
    Stays ground (functionArguments.go grammar first received count) := by
  induction count generalizing first received with
  | zero => mvcgen [functionArguments.go]
  | succ count ih => mvcgen [functionArguments.go, ih] with simp_all [FunctionArgument.Placed]

@[spec] theorem stays_functionArguments : Stays ground (functionArguments grammar) := by
  mvcgen [functionArguments, stays_functionArgumentsFrom]

@[spec] theorem keeps_signature (safe : Bool) :
    Keeps ground (signature grammar safe) ground.name := by
  mvcgen [signature] with simp_all

end Parser

end RecordRegistry
