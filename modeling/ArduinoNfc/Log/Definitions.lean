/-!
# The logger

`NfcLog` prints on the serial port what the other classes log: a format string with
arguments, or a buffer.  Its levels, its two `print` functions and the functions of
`Print` that these rest on.

A text is a list of characters.  An argument that is missing or of another type than
`va_arg` asks for is undefined behaviour: there is no text then.
-/

namespace ArduinoNfc
namespace Log

def nfcLogLevelError : UInt8 := 1
def nfcLogLevelInfo : UInt8 := 2

/-! ## `Print` -/

/-- `Print::printNumber`: the digits, those above nine in upper case. -/
def printNumber (base n : Nat) : List Char := (Nat.toDigits base n).map Char.toUpper

/-- `print(n, DEC)` of a signed number. -/
def printDec (n : BitVec 32) : List Char :=
  if n.msb then '-' :: printNumber 10 (-n).toNat else printNumber 10 n.toNat

/-- `print(n, HEX)`, of the bits. -/
def printHex (n : BitVec 32) : List Char := printNumber 16 n.toNat

/-- `print(n, BIN)`, of the bits. -/
def printBin (n : BitVec 32) : List Char := printNumber 2 n.toNat

/-! ## Format strings -/

/-- An argument behind the format string. -/
inductive VaArg where
  | int (n : BitVec 32)
  | long (n : BitVec 32)
  | str (s : List Char)
  deriving DecidableEq, Repr

/-- An argument `%d` of a small number. -/
def dec (n : Nat) : VaArg := .int (BitVec.ofNat 32 n)

/-- `va_arg(args, int)`, printed. -/
def vaInt (print : BitVec 32 → List Char) : List VaArg → Option (List Char × List VaArg)
  | .int n :: args => some (print n, args)
  | _ => none

/-- `va_arg(args, long)`, printed. -/
def vaLong (print : BitVec 32 → List Char) : List VaArg → Option (List Char × List VaArg)
  | .long n :: args => some (print n, args)
  | _ => none

/-- `va_arg(args, int)`, taken for a `char *` and printed. -/
def vaStr : List VaArg → Option (List Char × List VaArg)
  | .str s :: args => some (s, args)
  | _ => none

/-- What the character behind a `%` prints, and the arguments that it leaves. -/
def conversion (c : Char) (args : List VaArg) : Option (List Char × List VaArg) :=
  if c = '%' then
    some (['%'], args)
  else if c = 's' then
    vaStr args
  else if c = 'd' ∨ c = 'i' then
    vaInt printDec args
  else if c = 'x' then
    vaInt printHex args
  else if c = 'X' then
    vaInt (fun n => ['0', 'x'] ++ printHex n) args
  else if c = 'b' then
    vaInt printBin args
  else if c = 'B' then
    vaInt (fun n => ['0', 'b'] ++ printBin n) args
  else if c = 'l' then
    vaLong printDec args
  else if c = 'c' then
    -- the argument is an `int`, so this prints a number
    vaInt printDec args
  else if c = 't' then
    vaInt (fun n => if n = 1 then ['T'] else ['F']) args
  else if c = 'T' then
    vaInt (fun n => if n = 1 then ['t', 'r', 'u', 'e'] else ['f', 'a', 'l', 's', 'e']) args
  else
    -- any other character is printed like one outside of a conversion
    some ([c], args)

/-- The loop over the format string: the text, and the arguments that are left. -/
def format : List Char → List VaArg → Option (List Char × List VaArg)
  | [], args => some ([], args)
  | c :: str, args =>
      if c = '%' then
        match str with
        | [] => some ([], args)
        | d :: str =>
            (conversion d args).bind fun r =>
              (format str r.2).map fun rest => (r.1 ++ rest.1, rest.2)
      else
        (format str args).map fun rest => (c :: rest.1, rest.2)

/-! ## `NfcLog` -/

/-- The logger. -/
structure NfcLog where
  level : UInt8
  deriving DecidableEq, Repr

namespace NfcLog

/-- `NfcLog::print` of a format string with arguments. -/
def print (log : NfcLog) (level : UInt8) (str : String) (args : List VaArg) :
    Option (List Char) :=
  if log.level < level then
    some []
  else
    (format str.toList args).map Prod.fst

/-- `NfcLog::print` of the bytes behind a pointer; `buf` is its value, if it is not
`NULL`. -/
def printBuffer (log : NfcLog) (level : UInt8) (str : String) (buf : Option Nat)
    (bytes : List UInt8) : List Char :=
  match buf with
  | none => []
  | some addr =>
      if log.level < level ∨ bytes = [] then
        []
      else
        str.toList ++ (['0', 'x'] ++ printNumber 10 addr ++ ['['] ++
          printNumber 10 bytes.length ++ [']', ':']) ++
          bytes.flatMap (fun b => [' ', '0', 'x'] ++ printNumber 16 b.toNat) ++ ['\n']

end NfcLog

/-- A call of a method of the logger; `β` are the pointers that it may be handed. -/
inductive LogCall (β : Type) where
  /-- `v`, `d`, `i` or `e`, by the level. -/
  | print (level : UInt8) (str : String) (args : List VaArg)
  /-- `bv` or `bi`, by the level, with the bytes behind the pointer. -/
  | printBuffer (level : UInt8) (str : String) (buf : Option β) (bytes : List UInt8)
  deriving DecidableEq, Repr

namespace LogCall

variable {β : Type}

/-- `NfcLog::i`. -/
def i (str : String) (args : List VaArg) : LogCall β := .print nfcLogLevelInfo str args

/-- `NfcLog::e`. -/
def e (str : String) (args : List VaArg) : LogCall β := .print nfcLogLevelError str args

/-- `NfcLog::bi`. -/
def bi (str : String) (buf : Option β) (bytes : List UInt8) : LogCall β :=
  .printBuffer nfcLogLevelInfo str buf bytes

/-- What a call prints; `address` are the values of the pointers. -/
def text (log : NfcLog) (address : β → Nat) : LogCall β → Option (List Char)
  | .print level str args => log.print level str args
  | .printBuffer level str buf bytes =>
      some (log.printBuffer level str (buf.map address) bytes)

/-- A line of the level `ERROR`. -/
def IsError (l : LogCall β) : Prop := ∃ str args, l = .e str args

end LogCall
end Log
end ArduinoNfc
