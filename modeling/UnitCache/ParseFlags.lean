import UnitCache.Text.Ends
/-!
Flags handed to an engine with every parse. A set of flags may hold bits that have no name; its text names those that
have one and gives the others as a number.
-/
namespace UnitCache

structure ParseFlags where
  bits : UInt32
  deriving DecidableEq, Inhabited, Repr

namespace ParseFlags

def empty : ParseFlags := ⟨0⟩

def precompiledPreamble : ParseFlags := ⟨4⟩

def cacheCompletionResults : ParseFlags := ⟨8⟩

def named : List (String × ParseFlags) :=
  [("PRECOMPILED_PREAMBLE", precompiledPreamble), ("CACHE_COMPLETION_RESULTS", cacheCompletionResults)]

def union (left right : ParseFlags) : ParseFlags := ⟨left.bits ||| right.bits⟩

def contains (flags inner : ParseFlags) : Bool := flags.bits &&& inner.bits == inner.bits

def isEmpty (flags : ParseFlags) : Bool := flags.bits == 0

def unnamedBits (flags : ParseFlags) : UInt32 :=
  named.foldl (fun bits flag => if flags.contains flag.2 then bits &&& ~~~flag.2.bits else bits) flags.bits

def parts (flags : ParseFlags) : List String :=
  (named.filter fun flag => flags.contains flag.2).map Prod.fst
    ++ if flags.unnamedBits == 0 then []
      else ["0x" ++ String.ofList (Nat.toDigits 16 flags.unnamedBits.toNat)]

def text (flags : ParseFlags) : String := " | ".intercalate flags.parts

def hexNumber? (digits : List Char) : Option Nat :=
  if digits.isEmpty then none
  else digits.foldlM (fun value c => (Text.hexValue? c).map fun digit => value * 16 + digit) 0

def unsigned : List Char → List Char
  | '+' :: digits => digits
  | digits => digits

def bits? (digits : List Char) : Option UInt32 := do
  let value ← hexNumber? (unsigned digits)
  if value < UInt32.size then some (UInt32.ofNat value) else none

def ofPart? (part : List Char) : Option ParseFlags :=
  match Text.trimChars part with
  | [] => none
  | '0' :: 'x' :: digits => (bits? digits).map ParseFlags.mk
  | name => (named.find? fun flag => flag.1.toList == name).map Prod.snd

/-- Cuts a text at each bar. `current` is what was read of the part at hand, the last character first. -/
def splitBars (current : List Char) : List Char → List (List Char)
  | [] => [current.reverse]
  | c :: rest => if c == '|' then current.reverse :: splitBars [] rest else splitBars (c :: current) rest

def ofText? (text : String) : Option ParseFlags :=
  if (Text.trimChars text.toList).isEmpty then some empty
  else ((splitBars [] text.toList).mapM ofPart?).map fun parts => parts.foldl union empty

end ParseFlags

end UnitCache
