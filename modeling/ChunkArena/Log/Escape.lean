import ChunkArena.Profile
import ChunkArena.Log.Level

/-!
Terminal escape sequences: a list of codes, each one byte, written as decimal numerals between the
introducer `ESC [` and the final letter `m`, with a semicolon between any two. The sequence without
codes is written too.
-/

namespace ChunkArena

namespace Escape

def reset : UInt8 := 0
def bold : UInt8 := 1
def dim : UInt8 := 2
def red : UInt8 := 31
def green : UInt8 := 32
def yellow : UInt8 := 33
def white : UInt8 := 37

def named : List UInt8 := [reset, bold, dim, red, green, yellow, white]

def background (profile : Profile) (color : UInt8) : Except Panic UInt8 :=
  if color.toNat + 10 < 256 ∨ profile.checks = false then .ok (color + 10)
  else .error .addOverflow

def numeral (code : UInt8) : List Char := Nat.toDigits 10 code.toNat

def numerals : List UInt8 → List Char
  | [] => []
  | [code] => numeral code
  | code :: rest => numeral code ++ ';' :: numerals rest

def chars (codes : List UInt8) : List Char := '\x1b' :: '[' :: (numerals codes ++ ['m'])

def text (codes : List UInt8) : String := String.ofList (chars codes)

def shown (codes : List UInt8) : String :=
  "TerminalEscapeSequence([" ++ ", ".intercalate (codes.map fun code => toString code.toNat) ++ "])"

end Escape

/-- The codes that a level is shown with. The background is the one of `red`. -/
def Level.codes : Level → List UInt8
  | debug => [Escape.dim, Escape.white]
  | info => [Escape.green]
  | warn => [Escape.yellow]
  | error => [Escape.bold, Escape.red]
  | critical => [Escape.bold, Escape.white, 41]

theorem background_red (profile : Profile) : Escape.background profile Escape.red = .ok 41 := by
  cases profile <;> rfl

end ChunkArena
