/-!
Decoding of bytes as UTF-8. A fault is located by its first byte and counted in bytes; a sequence
that the end of the bytes cuts off is a fault of its own kind.
-/

namespace FrameworkForge.Text

inductive Utf8Reason where
  | start
  | continuation
  | cutOff
  deriving DecidableEq, Repr

/-- The bytes from `offset` on that cannot be decoded, of which there are one to three. -/
structure Utf8Fault where
  offset : Nat
  faulty : List Nat
  reason : Utf8Reason
  deriving DecidableEq, Repr

namespace Utf8Reason

def text : Utf8Reason → String
  | start => "invalid start byte"
  | continuation => "invalid continuation byte"
  | cutOff => "unexpected end of data"

end Utf8Reason

def twoHexDigits (n : Nat) : String :=
  let digits := Nat.toDigits 16 n
  String.ofList (List.replicate (2 - digits.length) '0' ++ digits)

namespace Utf8Fault

def message (fault : Utf8Fault) : String :=
  let place :=
    match fault.faulty with
    | [b] => s!"byte 0x{twoHexDigits b} in position {fault.offset}"
    | bs => s!"bytes in position {fault.offset}-{fault.offset + bs.length - 1}"
  s!"'utf-8' codec can't decode {place}: {fault.reason.text}"

end Utf8Fault

/-- How many bytes follow a first byte, and between which bounds the next one lies: the bounds
rule out overlong forms, surrogates and code points beyond the last. -/
def followers? (first : Nat) : Option (Nat × Nat × Nat) :=
  if 0xc2 ≤ first ∧ first ≤ 0xdf then some (1, 0x80, 0xbf)
  else if first = 0xe0 then some (2, 0xa0, 0xbf)
  else if first = 0xed then some (2, 0x80, 0x9f)
  else if 0xe1 ≤ first ∧ first ≤ 0xef then some (2, 0x80, 0xbf)
  else if first = 0xf0 then some (3, 0x90, 0xbf)
  else if 0xf1 ≤ first ∧ first ≤ 0xf3 then some (3, 0x80, 0xbf)
  else if first = 0xf4 then some (3, 0x80, 0x8f)
  else none

/-- The longest start of the bytes that fits: the next byte lies within the bounds, and those
after it are any continuation bytes. -/
def continuations (count low high : Nat) : List Nat → List Nat
  | [] => []
  | b :: bs =>
    match count with
    | 0 => []
    | count + 1 =>
      if low ≤ b ∧ b ≤ high then b :: continuations count 0x80 0xbf bs else []

def firstBits (count first : Nat) : Nat :=
  first % (0x40 >>> count)

def joinBits (value : Nat) (bytes : List Nat) : Nat :=
  bytes.foldl (fun value b => value * 64 + b % 64) value

theorem length_drop_lt_length_cons {α : Type} (x : α) (xs : List α) (n : Nat) :
    (xs.drop n).length < (x :: xs).length := by
  rw [List.length_drop, List.length_cons]
  exact Nat.lt_succ_of_le (Nat.sub_le xs.length n)

/-- Characters, and the bytes behind them that start a character and are cut off by the end. -/
structure Decoded where
  chars : List Char := []
  unfinished : List Nat := []

namespace Decoded

def cons (c : Char) (d : Decoded) : Decoded :=
  { d with chars := c :: d.chars }

end Decoded

/-- Whether bytes start a character as far as they go. The second byte of a surrogate is a fault,
but not before a third byte is there. -/
def isUnfinished (first low high count : Nat) (rest : List Nat) : Bool :=
  (continuations count low high rest).length = rest.length ||
    (first = 0xed && match rest with
      | [b] => 0xa0 ≤ b && b ≤ 0xbf
      | _ => false)

/-- Decodes up to the first fault, or up to a character that the end cuts off. -/
def decodePart (offset : Nat) (bytes : List Nat) : Except Utf8Fault Decoded :=
  match bytes with
  | [] => .ok {}
  | first :: rest =>
    if first < 0x80 then (decodePart (offset + 1) rest).map (Decoded.cons (Char.ofNat first))
    else match followers? first with
      | none => .error ⟨offset, [first], .start⟩
      | some (count, low, high) =>
        let following := continuations count low high rest
        if following.length = count then
          (decodePart (offset + 1 + count) (rest.drop count)).map
            (Decoded.cons (Char.ofNat (joinBits (firstBits count first) following)))
        else if isUnfinished first low high count rest then .ok { unfinished := first :: rest }
        else .error ⟨offset, first :: following, .continuation⟩
termination_by bytes.length
decreasing_by
  · exact Nat.lt_succ_self rest.length
  · exact length_drop_lt_length_cons first rest count

/-- The fault of bytes behind which nothing follows. They are told apart from the bytes before
them, which were decoded without waiting for more: the place counts from their own start. -/
def faultAtEnd : List Nat → Utf8Fault
  | [0xed, b] => if 0xa0 ≤ b then ⟨0, [0xed], .continuation⟩ else ⟨0, [0xed, b], .cutOff⟩
  | unfinished => ⟨0, unfinished, .cutOff⟩

def decodeUtf8 (bytes : List UInt8) : Except Utf8Fault (List Char) :=
  match decodePart 0 (bytes.map UInt8.toNat) with
  | .error fault => .error fault
  | .ok ⟨chars, []⟩ => .ok chars
  | .ok ⟨_, unfinished⟩ => .error (faultAtEnd unfinished)

def unifyNewlines : List Char → List Char
  | [] => []
  | '\r' :: '\n' :: cs => '\n' :: unifyNewlines cs
  | '\r' :: cs => '\n' :: unifyNewlines cs
  | c :: cs => c :: unifyNewlines cs

end FrameworkForge.Text
