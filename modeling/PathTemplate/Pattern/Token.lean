import PathTemplate.Pattern.Error

/-!
# Tokens of a pattern

Slashes and parentheses are tokens by themselves.  Everything between two of them belongs to one
token, which names a variable if it starts with a colon and is plain text otherwise.  A colon
further inside is an ordinary character, and so is every other character.
-/

namespace PathTemplate

def isReserved (c : Char) : Bool :=
  c == '/' || c == '(' || c == ')'

namespace Token

inductive Kind where
  | separator
  | groupOpen
  | groupClose
  | var (name : String)
  | text (content : String)
  deriving Repr, DecidableEq

def Kind.source : Kind → String
  | separator => "/"
  | groupOpen => "("
  | groupClose => ")"
  | var name => ":" ++ name
  | text content => content

/-- The kind of token that a lexeme spells; a lone colon spells none. -/
def Kind.ofLexeme? : List Char → Option Kind
  | ['/'] => some .separator
  | ['('] => some .groupOpen
  | [')'] => some .groupClose
  | [':'] => none
  | ':' :: name => some (.var (String.ofList name))
  | content => some (.text (String.ofList content))

end Token

structure Token where
  kind : Token.Kind
  /-- The byte offset at which the token starts. -/
  position : Nat
  deriving Repr, DecidableEq

namespace Token

def source (token : Token) : String :=
  token.kind.source

/-- Two neighbouring characters stand in the same token when neither is reserved. -/
def joins (left right : Char) : Bool :=
  !isReserved left && !isReserved right

def lexemes (cs : List Char) : List (List Char) :=
  cs.splitBy joins

def ofLexemes (position : Nat) : List (List Char) → Except PatternError (List Token)
  | [] => .ok []
  | lexeme :: rest => do
    let some kind := Kind.ofLexeme? lexeme | .error (.namelessVariable position)
    let tokens ← ofLexemes (position + (String.ofList lexeme).utf8ByteSize) rest
    return ⟨kind, position⟩ :: tokens

def scan (raw : String) : Except PatternError (List Token) :=
  ofLexemes 0 (lexemes raw.toList)

end Token
end PathTemplate
