import Starry.Library.Text
import Starry.RelayObserver.Geo

/-!
# The parser of Geo expressions (`geo_relay/rules.rs`)

The parser keeps its position in bytes and cuts the rest of the source from there at every look.
Its loops are bounded here, and say so when the bound is used up.
-/

open Library Library.Text

namespace Starry.GeoRelay

open Starry.RelayObserver (Expression Predicate)

def maxExpressionDepth : Nat := 32

def maxExpressionTerms : Nat := 256

/-- Why there is no result. -/
inductive Halt
  | invalid (message : String)
  /-- A slice is not between two characters of the text. -/
  | outOfRange
  /-- The bound of a loop is used up. -/
  | unfinished
deriving DecidableEq, Repr

def sliceOf (text : List Char) (start stop : Nat) : Except Halt (List Char) :=
  match slice text start stop with
  | none => throw .outOfRange
  | some value => pure value

/-! ## Predicates -/

def singleQuote : Char := '\x27'

def isQuote (c : Char) : Bool := c == singleQuote || c == '"'

/-- `str::trim` -/
def trimText (text : List Char) : List Char :=
  ((text.dropWhile isWhiteSpace).reverse.dropWhile isWhiteSpace).reverse

def lowercase (text : List Char) : List Char := text.map Char.toLower

def uppercase (text : List Char) : List Char := text.map Char.toUpper

/-- `is_country_code`: two letters of ASCII. -/
def isCountryCode (value : List Char) : Bool := byteLen value == 2 && value.all Char.isAlpha

/-- `str::split_once` at the first colon. -/
def splitOnce (text : List Char) : Option (List Char × List Char) :=
  if ':' ∈ text then some (text.takeWhile (· != ':'), (text.dropWhile (· != ':')).tail) else none

def unescapeStep (state : List Char × Bool) (ch : Char) : List Char × Bool :=
  if state.2 then (state.1 ++ [ch], false)
  else if ch == '\\' then (state.1, true)
  else (state.1 ++ [ch], false)

def decodeValue (raw : List Char) : Except Halt (List Char) :=
  let raw := trimText raw
  match raw.head? with
  | none => pure []
  | some first =>
    if !isQuote first then pure raw
    else if byteLen raw < first.utf8Size * 2 || raw.getLast? != some first then
      throw (.invalid "quoted value must end with the same quote")
    else do
      let body ← sliceOf raw first.utf8Size (byteLen raw - first.utf8Size)
      let (value, escaped) := body.foldl unescapeStep ([], false)
      if escaped then throw (.invalid "quoted value ends with an incomplete escape")
      else pure (trimText value)

def parseNonzeroU32 (field : String) (value : List Char) : Except Halt Nat :=
  match parseUnsigned (2 ^ 32) (String.ofList value) with
  | none =>
    throw (.invalid (field ++ " '" ++ String.ofList value ++ "' is not a valid integer"))
  | some value =>
    if value = 0 then throw (.invalid (field ++ " must be greater than zero")) else pure value

def stripPrefix (start value : List Char) : Option (List Char) :=
  if start.isPrefixOf value then some (value.drop start.length) else none

/-- The predicate of a field and its value. -/
def Predicate.ofField (field : String) (value : List Char) : Except Halt Predicate :=
  if field = "continent" then pure (.continent (String.ofList (uppercase value)))
  else if field = "country" then
    if !isCountryCode value then
      throw (.invalid ("country '" ++ String.ofList value ++ "' must be a two-letter code"))
    else pure (.country (String.ofList (uppercase value)))
  else if field = "subdivision" ∨ field = "region" then pure (.subdivision (String.ofList value))
  else if field = "city" then pure (.city (String.ofList value))
  else if field = "geoname" ∨ field = "city_id" then do
    let id ← parseNonzeroU32 field value
    pure (.geoname id)
  else if field = "asn" then do
    let digits := ((stripPrefix ['A', 'S'] value).or (stripPrefix ['a', 's'] value)).getD value
    let number ← parseNonzeroU32 field digits
    pure (.asn number)
  else if field = "isp" ∨ field = "asn_org" then pure (.isp (String.ofList value))
  else throw (.invalid ("unsupported field '" ++ field ++
    "'; use continent, country, subdivision, city, geoname, asn, or isp"))

def Predicate.compile (raw : List Char) : Except Halt Expression :=
  let raw := trimText raw
  if raw = ['*'] then pure .any
  else if isCountryCode raw then pure (.predicate (.country (String.ofList (uppercase raw))))
  else match splitOnce raw with
    | none => throw (.invalid ("'" ++ String.ofList raw ++ "' must be '*' or field:value"))
    | some (field, value) => do
      let field := String.ofList (lowercase (trimText field))
      let value ← decodeValue value
      if value.isEmpty then throw (.invalid ("field '" ++ field ++ "' has an empty value"))
      else
        let predicate ← Predicate.ofField field value
        pure (.predicate predicate)

/-! ## Expressions -/

structure ExpressionParser where
  source : List Char
  position : Nat
  depth : Nat
  terms : Nat
deriving DecidableEq, Repr

namespace ExpressionParser

def peek (p : ExpressionParser) : Except Halt (Option Char) :=
  match sliceFrom p.source p.position with
  | none => throw .outOfRange
  | some rest => pure rest.head?

def advance (p : ExpressionParser) (ch : Char) : ExpressionParser :=
  { p with position := p.position + ch.utf8Size }

def consume (p : ExpressionParser) (expected : Char) : Except Halt (Bool × ExpressionParser) := do
  let next ← p.peek
  if next = some expected then pure (true, p.advance expected) else pure (false, p)

def skipLoop : Nat → ExpressionParser → Except Halt ExpressionParser
  | 0, _ => throw .unfinished
  | fuel + 1, p => do
    match ← p.peek with
    | none => pure p
    | some ch => if !isWhiteSpace ch then pure p else skipLoop fuel (p.advance ch)

def skipWhitespace (p : ExpressionParser) : Except Halt ExpressionParser :=
  skipLoop (p.source.length + 1) p

def isOperator (c : Char) : Bool := c == '+' || c == '/' || c == '(' || c == ')'

/-- The loop of `read_predicate`: the quote that is open, and whether the next character is
escaped. -/
def readLoop : Nat → Option Char → Bool → ExpressionParser →
    Except Halt (Option Char × ExpressionParser)
  | 0, _, _, _ => throw .unfinished
  | fuel + 1, quote, escaped, p => do
    match ← p.peek, quote with
    | none, quote => pure (quote, p)
    | some ch, some activeQuote =>
      if escaped then readLoop fuel quote false (p.advance ch)
      else if ch == '\\' then readLoop fuel quote true (p.advance ch)
      else if ch == activeQuote then readLoop fuel none escaped (p.advance ch)
      else readLoop fuel quote escaped (p.advance ch)
    | some ch, none =>
      if isQuote ch then readLoop fuel (some ch) escaped (p.advance ch)
      else if isOperator ch then pure (quote, p)
      else readLoop fuel quote escaped (p.advance ch)

def readPredicate (p : ExpressionParser) : Except Halt (List Char × ExpressionParser) := do
  let p ← p.skipWhitespace
  let start := p.position
  let (quote, p) ← readLoop (p.source.length + 1) none false p
  if quote.isSome then
    throw (.invalid ("unterminated quoted value at byte " ++ toString start))
  else
    let value ← sliceOf p.source start p.position
    let value := trimText value
    if value.isEmpty then
      throw (.invalid ("missing expression term at byte " ++ toString start))
    else pure (value, p)

mutual

def parseOr : Nat → ExpressionParser → Except Halt (Expression × ExpressionParser)
  | 0, _ => throw .unfinished
  | fuel + 1, p => do
    let (expression, p) ← parseAnd fuel p
    orLoop fuel expression p

def orLoop : Nat → Expression → ExpressionParser → Except Halt (Expression × ExpressionParser)
  | 0, _, _ => throw .unfinished
  | fuel + 1, expression, p => do
    let p ← p.skipWhitespace
    let (found, p) ← p.consume '/'
    if !found then pure (expression, p)
    else
      let (right, p) ← parseAnd fuel p
      orLoop fuel (.or expression right) p

def parseAnd : Nat → ExpressionParser → Except Halt (Expression × ExpressionParser)
  | 0, _ => throw .unfinished
  | fuel + 1, p => do
    let (expression, p) ← parsePrimary fuel p
    andLoop fuel expression p

def andLoop : Nat → Expression → ExpressionParser → Except Halt (Expression × ExpressionParser)
  | 0, _, _ => throw .unfinished
  | fuel + 1, expression, p => do
    let p ← p.skipWhitespace
    let (found, p) ← p.consume '+'
    if !found then pure (expression, p)
    else
      let (right, p) ← parsePrimary fuel p
      andLoop fuel (.and expression right) p

def parsePrimary : Nat → ExpressionParser → Except Halt (Expression × ExpressionParser)
  | 0, _ => throw .unfinished
  | fuel + 1, p => do
    let p ← p.skipWhitespace
    let (found, p) ← p.consume '('
    if found then
      if p.depth ≥ maxExpressionDepth then
        throw (.invalid ("expression nesting exceeds " ++ toString maxExpressionDepth ++ " levels"))
      else
        let (expression, p) ← parseOr fuel { p with depth := p.depth + 1 }
        let p := { p with depth := p.depth - 1 }
        let p ← p.skipWhitespace
        let (found, p) ← p.consume ')'
        if !found then throw (.invalid ("missing ')' at byte " ++ toString p.position))
        else pure (expression, p)
    else
      let (raw, p) ← p.readPredicate
      let p := { p with terms := p.terms + 1 }
      if p.terms > maxExpressionTerms then
        throw (.invalid ("expression contains more than " ++ toString maxExpressionTerms ++ " terms"))
      else
        let expression ← Predicate.compile raw
        pure (expression, p)

end

/-- A bound on the calls of a text: three for each character, and three. -/
def enough (source : List Char) : Nat := 3 * source.length + 3

def parse (source : String) : Except Halt Expression := do
  let (expression, p) ← parseOr (enough source.toList) ⟨source.toList, 0, 0, 0⟩
  let p ← p.skipWhitespace
  if p.position ≠ byteLen source.toList then
    throw (.invalid ("unexpected token at byte " ++ toString p.position))
  else pure expression

end ExpressionParser

end Starry.GeoRelay
