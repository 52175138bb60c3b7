/-
# The names that are read

A name of a text is an identifier, with the marker of a raw name or without.  As parsers make up no
names, this holds of every name that is read from a text: of an identifier, of the segments of a
path and of the types that a file declares.
-/

import RecordRegistry.Proofs.Provenance.Item
import RecordRegistry.Proofs.Provenance.Text

namespace RecordRegistry

variable {α : Type} {good : α → Prop} {text : List Char} {trees : List TokenTree} {value : α}
  {found : List Item}

/-- What a parser yields for the trees of a text is said of what the text holds. -/
theorem Parser.Keeps.ok_of_tokenTrees {ground : Ground} {parser : Parser α}
    (keeps : Keeps ground parser good) (fits : ground.Fits text)
    (read : Lexer.tokenTrees text = .ok ground.whole) (outermost : ground.scope = wholeText)
    (silent : ¬ ground.noted)
    (yields : parser.runWithin wholeText ground.whole = .ok (value, found)) : good value := by
  obtain ⟨typed, trees⟩ := Lexer.trees_tokenTrees fits read
  have closing : ground.place ground.scope.closing := by
    rw [outermost]
    exact fits.place _ ⟨[], text, rfl, rfl⟩
  rw [← outermost] at yields
  exact (keeps.ok_of_runWithin trees typed closing silent yields).1

/-- The trees of a text, of which it is said that all names are names as a whole, and that the names
of types are not reserved. -/
def wholeGround (trees : List TokenTree) : Ground where
  name name := Lexer.IsName name.spelling.toList
  type name := Lexer.IsName name.spelling.toList ∧ isReserved name.spelling = false
  place _ := True
  noted := False
  whole := trees
  scope := Parser.wholeText

theorem fits_wholeGround : (wholeGround trees).Fits text where
  place _ _ := trivial
  name _ named _ := named
  type _ named _ free := ⟨named, free⟩
  documentation _ _ := show Lexer.IsName "doc".toList by decide

/-- A text that reads as one identifier holds a name. -/
theorem Name.isName_of_parse {text : String} {name : Name} (read : Name.parse text = .ok name) :
    Lexer.IsName name.spelling.toList := by
  obtain ⟨trees, found, cut, yields⟩ := Name.parse_eq_ok_iff.mp read
  have keeps : Parser.Keeps (wholeGround trees) Parser.identifier _ := Parser.keeps_identifier
  exact keeps.ok_of_tokenTrees fits_wholeGround cut rfl id yields

/-- The segments of a path that is read from a text have names. -/
theorem Path.isName_of_parse {text : String} {path : Path} (read : Path.parse text = .ok path) :
    ∀ segment ∈ path.segments, Lexer.IsName segment.name.spelling.toList := by
  obtain ⟨trees, found, cut, yields⟩ := Path.parse_eq_ok_iff.mp read
  have keeps : Parser.Keeps (wholeGround trees) (Parser.path (Parser.grammarFor trees) false) _ :=
    Parser.keeps_path false
  exact keeps.ok_of_tokenTrees fits_wholeGround cut rfl id yields

/-- The types that a file declares have names, and these are not reserved. -/
theorem SourceFile.isTypeName_of_parse {text : String} {source : SourceFile}
    (read : SourceFile.parse text = .ok source) {item : Item}
    (met : item ∈ source.inAttributes ++ source.items) {name : Name} {shape : Shape}
    (declared : item.declared? = some (name, shape)) :
    Lexer.IsName name.spelling.toList ∧ isReserved name.spelling = false := by
  obtain ⟨trees, found, cut, yields⟩ := SourceFile.parse_eq_ok_iff.mp read
  have keeps : Parser.Keeps (wholeGround trees) (Parser.file (Parser.grammarFor trees)) _ :=
    Parser.keeps_file
  exact keeps.ok_of_tokenTrees fits_wholeGround cut rfl id yields item met name shape declared

/-- The types that a file declares have names. -/
theorem SourceFile.isName_of_parse {text : String} {source : SourceFile}
    (read : SourceFile.parse text = .ok source) {item : Item}
    (met : item ∈ source.inAttributes ++ source.items) {name : Name} {shape : Shape}
    (declared : item.declared? = some (name, shape)) : Lexer.IsName name.spelling.toList :=
  (SourceFile.isTypeName_of_parse read met declared).1

end RecordRegistry
