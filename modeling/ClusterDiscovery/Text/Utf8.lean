import ClusterDiscovery.Text.Class

/-! # Decoding UTF-8

Bytes that are no UTF-8 have a first place where decoding stops, with the bytes that are at fault
there and a reason. -/

namespace ClusterDiscovery.Text

inductive Utf8Reason where
  | badStart | badContinuation | endOfData
deriving Repr, DecidableEq

/-- The bytes at fault: from a position, up to but not including another one. -/
structure Utf8Issue where
  start : Nat
  stop : Nat
  reason : Utf8Reason
deriving Repr, DecidableEq

/-- The number of bytes of the character that a byte starts, and the least and the greatest second
byte. -/
def characterForm? (b : UInt8) : Option (Nat × UInt8 × UInt8) :=
  if b < 0x80 then some (1, 0, 0)
  else if b < 0xC2 then none
  else if b < 0xE0 then some (2, 0x80, 0xBF)
  else if b == 0xE0 then some (3, 0xA0, 0xBF)
  else if b == 0xED then some (3, 0x80, 0x9F)
  else if b < 0xF0 then some (3, 0x80, 0xBF)
  else if b == 0xF0 then some (4, 0x90, 0xBF)
  else if b < 0xF4 then some (4, 0x80, 0xBF)
  else if b == 0xF4 then some (4, 0x80, 0x8F)
  else none

/-- The issue in the bytes after the start of a character, of which `left` belong to it. -/
def tailIssue? (start at_ left : Nat) (least greatest : UInt8) : List UInt8 → Option Utf8Issue
  | [] => if left == 0 then none else some ⟨start, at_, .endOfData⟩
  | b :: rest =>
    if left == 0 then none
    else if b < least || greatest < b then some ⟨start, at_, .badContinuation⟩
    else tailIssue? start (at_ + 1) (left - 1) 0x80 0xBF rest

/-- The first issue of a sequence of bytes. `skip` bytes are known to be good. -/
def utf8IssueFrom? (position skip : Nat) : List UInt8 → Option Utf8Issue
  | [] => none
  | b :: rest =>
    if skip > 0 then utf8IssueFrom? (position + 1) (skip - 1) rest
    else match characterForm? b with
      | none => some ⟨position, position + 1, .badStart⟩
      | some (size, least, greatest) =>
        match tailIssue? position (position + 1) (size - 1) least greatest rest with
        | some issue => some issue
        | none => utf8IssueFrom? (position + 1) (size - 1) rest

def utf8Issue? (bytes : List UInt8) : Option Utf8Issue := utf8IssueFrom? 0 0 bytes

def Utf8Reason.text : Utf8Reason → String
  | .badStart => "invalid start byte"
  | .badContinuation => "invalid continuation byte"
  | .endOfData => "unexpected end of data"

def Utf8Issue.message (issue : Utf8Issue) (bytes : List UInt8) : String :=
  let place :=
    if issue.stop == issue.start + 1 then
      "byte 0x" ++ String.ofList (hexDigits 2 (bytes.getD issue.start 0).toNat)
        ++ " in position " ++ toString issue.start
    else "bytes in position " ++ toString issue.start ++ "-" ++ toString (issue.stop - 1)
  "'utf-8' codec can't decode " ++ place ++ ": " ++ issue.reason.text

def decodeUtf8 (bytes : List UInt8) : Except String String :=
  match utf8Issue? bytes with
  | some issue => .error (issue.message bytes)
  | none => .ok ((String.fromUTF8? ⟨bytes.toArray⟩).getD "")

end ClusterDiscovery.Text
