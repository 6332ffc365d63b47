import Mustache.Lexeme
import Mustache.Node

/-!
# From lexemes to a tree

Open and close tags pair up by name, innermost first. Lexemes are taken in order, so of several
errors the one that shows first is reported: a tag that cannot be read is reported only if the
lexemes before it nest properly.
-/

namespace Mustache

set_option autoImplicit false

/-- A section whose close tag has not been met. -/
structure OpenSection where
  name : List Char
  inverted : Bool
  position : Position
  delimiters : Delimiters
  /-- The source of the open tag. -/
  source : List Char
  /-- The nodes before the section in the same body, newest first. -/
  before : List Node
  /-- The source of that body before the open tag, in pieces, newest first. -/
  raw : List (List Char)

/-- The part of a tree built so far: the nodes of the innermost open body and its source, both
newest first, and the open sections, innermost first. -/
structure TreeBuilder where
  nodes : List Node
  raw : List (List Char)
  sections : List OpenSection

namespace TreeBuilder

def empty : TreeBuilder := ⟨[], [], []⟩

/-- Adds a literal text; an empty one leaves no node. -/
def addText (nodes : List Node) (text : List Char) : List Node :=
  if text.isEmpty then nodes else .text (String.ofList text) :: nodes

/-- The node of a section once its body is complete. -/
def sectionNode (opened : OpenSection) (body : List Node) (raw : List Char) : Node :=
  let path := Path.parse opened.name
  if opened.inverted then .inverted path body opened.position
  else .block path body (String.ofList raw) opened.delimiters opened.position

/-- Ends the innermost section. `nodes` is its body, newest first. -/
def close (builder : TreeBuilder) (nodes : List Node) (tag : Tag) : Except Failure TreeBuilder :=
  match builder.sections with
  | [] => .error ⟨.closingUnopened tag.name, tag.position⟩
  | opened :: outer =>
    if opened.name = tag.content then
      let raw := (tag.leading :: builder.raw).reverse.flatten
      .ok ⟨sectionNode opened nodes.reverse raw :: opened.before,
        (tag.span ++ tag.trailing) :: raw :: opened.source :: opened.raw, outer⟩
    else .error ⟨.unclosedSection (String.ofList opened.name), opened.position⟩

/-- Adds a tag. The blanks before a tag that does not stand alone are literal text. -/
def addTag (builder : TreeBuilder) (tag : Tag) : Except Failure TreeBuilder :=
  let nodes := if tag.standalone then builder.nodes else addText builder.nodes tag.leading
  let add (node : Node) : Except Failure TreeBuilder :=
    .ok ⟨node :: nodes, tag.source :: builder.raw, builder.sections⟩
  match tag.kind with
  | .escaped => add (.escaped (Path.parse tag.content) tag.position)
  | .unescaped => add (.unescaped (Path.parse tag.content) tag.position)
  | .partialTag => add (.partialTag tag.name (String.ofList tag.indentation) tag.position)
  | .comment => add (.comment tag.name tag.position)
  | .setDelimiters pair => add (.delimiters pair tag.position)
  | .openSection inverted =>
    .ok ⟨[], [], ⟨tag.content, inverted, tag.position, tag.delimiters, tag.source, nodes,
      builder.raw⟩ :: builder.sections⟩
  | .closeSection => builder.close nodes tag

def add (builder : TreeBuilder) : Lexeme → Except Failure TreeBuilder
  | .text content => .ok { builder with
      nodes := addText builder.nodes content
      raw := content :: builder.raw }
  | .tag tag => builder.addTag tag

def addAll (builder : TreeBuilder) : List Lexeme → Except Failure TreeBuilder
  | [] => .ok builder
  | lexeme :: rest =>
    match builder.add lexeme with
    | .error failure => .error failure
    | .ok next => next.addAll rest

/-- The finished nodes; no section may be open. -/
def finish (builder : TreeBuilder) : Except Failure (List Node) :=
  match builder.sections with
  | [] => .ok builder.nodes.reverse
  | opened :: _ => .error ⟨.unclosedSection (String.ofList opened.name), opened.position⟩

end TreeBuilder

/-- Builds the nodes of a row of lexemes. -/
def Lexing.toNodes (lexing : Lexing) : Except Failure (List Node) :=
  match TreeBuilder.empty.addAll lexing.lexemes with
  | .error failure => .error failure
  | .ok builder =>
    match lexing.failure with
    | some failure => .error failure
    | none => builder.finish

/-- Parses a template that starts under the given delimiters. -/
def parse (delimiters : Delimiters) (source : String) : Except ParseError Node :=
  match (Lexing.ofText delimiters source.toList).toNodes with
  | .error failure => .error (failure.report source)
  | .ok nodes => .ok (.sequence nodes)

end Mustache
