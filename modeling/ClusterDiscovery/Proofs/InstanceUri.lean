import ClusterDiscovery.Instance

/-! # The address of an instance as a URI

The address of an instance is read by the grammar of URIs: a scheme, a host that is free of colons
or stands between brackets, and a decimal port. For names and for IPv4 addresses the address says
what the instance says. An IPv6 address stands in it without brackets, and then it cannot be read.
-/

namespace ClusterDiscovery

open ClusterDiscovery.Number

/-! ## Hosts -/

namespace Host

/-- A label of a name: letters, digits and inner hyphens. -/
def isLabel (s : List Char) : Bool :=
  !s.isEmpty && s.length ≤ 63 && s.all (fun c => c.isAlphanum || c == '-')
    && s.head? != some '-' && s.getLast? != some '-'

/-- A DNS name: labels with points between them. -/
def isName (s : List Char) : Bool := s.length ≤ 253 && (s.splitOn '.').all isLabel

/-- A number below 256, without leading zeros. -/
def isOctet (s : List Char) : Bool :=
  !s.isEmpty && s.all Char.isDigit && Nat.ofDigitChars 10 s 0 < 256
    && (s.head? != some '0' || s.length == 1)

/-- An IPv4 address: four octets with points between them. -/
def isIPv4 (s : List Char) : Bool := (s.splitOn '.').length == 4 && (s.splitOn '.').all isOctet

/-- Sixteen bits of an IPv6 address: one to four hexadecimal digits. -/
def isGroup (s : List Char) : Bool := !s.isEmpty && s.length ≤ 4 && s.all Char.isHexDigit

/-- How many groups stand between the colons of a part of an IPv6 address. An IPv4 address at the
end takes the place of two. -/
def groupCount? : List (List Char) → Option Nat
  | [] => some 0
  | [s] => if isGroup s then some 1 else if isIPv4 s then some 2 else none
  | s :: rest => if isGroup s then (groupCount? rest).map (· + 1) else none

/-- The texts between colons; none when there is no text at all. -/
def pieces (s : List Char) : List (List Char) := if s.isEmpty then [] else s.splitOn ':'

/-- Groups before and after a double colon at a position, which stands for at least one group. -/
def isShortenedAt (s : List Char) (i : Nat) : Bool :=
  (s.drop i).take 2 == [':', ':'] && (pieces (s.take i)).all isGroup &&
    (groupCount? (pieces (s.drop (i + 2)))).any fun n => (pieces (s.take i)).length + n < 8

/-- An IPv6 address: eight groups, or fewer around a double colon. -/
def isIPv6 (s : List Char) : Bool :=
  groupCount? (pieces s) == some 8 || (List.range s.length).any (isShortenedAt s)

/-! ### The characters of hosts -/

theorem mem_intercalate {c separator : Char} {parts : List (List Char)}
    (h : c ∈ [separator].intercalate parts) : c = separator ∨ ∃ part ∈ parts, c ∈ part := by
  induction parts with
  | nil => cases h
  | cons part rest ih =>
      cases rest with
      | nil => exact .inr ⟨part, List.mem_cons_self, by simpa using h⟩
      | cons next rest =>
          rw [List.intercalate_cons_cons, List.append_assoc, List.mem_append, List.mem_append,
            List.mem_singleton] at h
          obtain h | h | h := h
          · exact .inr ⟨part, List.mem_cons_self, h⟩
          · exact .inl h
          · obtain h | ⟨found, hfound, hc⟩ := ih h
            · exact .inl h
            · exact .inr ⟨found, List.mem_cons_of_mem _ hfound, hc⟩

/-- Every character of a text is the separator or stands in one of the parts. -/
theorem mem_splitOn (separator : Char) {c : Char} {s : List Char} (h : c ∈ s) :
    c = separator ∨ ∃ part ∈ s.splitOn separator, c ∈ part := by
  have hjoin : [separator].intercalate (s.splitOn separator) = s :=
    List.intercalate_splitOn separator
  rw [← hjoin] at h
  exact mem_intercalate h

variable {s : List Char} {c : Char}

theorem isName_chars (h : isName s = true) (hc : c ∈ s) :
    c = '.' ∨ c = '-' ∨ c.isAlphanum = true := by
  obtain rfl | ⟨label, hlabel, hmem⟩ := mem_splitOn '.' hc
  · exact .inl rfl
  · simp only [isName, Bool.and_eq_true, List.all_eq_true] at h
    have hparts := h.2 label hlabel
    simp only [isLabel, Bool.and_eq_true, List.all_eq_true, Bool.or_eq_true, beq_iff_eq] at hparts
    exact .inr (hparts.1.1.2 c hmem).symm

theorem isIPv4_chars (h : isIPv4 s = true) (hc : c ∈ s) : c = '.' ∨ c.isDigit = true := by
  obtain rfl | ⟨octet, hoctet, hmem⟩ := mem_splitOn '.' hc
  · exact .inl rfl
  · simp only [isIPv4, Bool.and_eq_true, List.all_eq_true] at h
    have hparts := h.2 octet hoctet
    simp only [isOctet, Bool.and_eq_true, List.all_eq_true] at hparts
    exact .inr (hparts.1.1.2 c hmem)

/-- A character of an IPv6 address. -/
def isIPv6Char (c : Char) : Bool := c.isHexDigit || c == ':' || c == '.'

theorem isIPv6Char_of_part {part : List Char} (h : isGroup part = true ∨ isIPv4 part = true)
    (hc : c ∈ part) : isIPv6Char c = true := by
  obtain h | h := h
  · simp only [isGroup, Bool.and_eq_true, List.all_eq_true] at h
    simp [isIPv6Char, h.2 c hc]
  · obtain rfl | hdigit := isIPv4_chars h hc
    · rfl
    · simp [isIPv6Char, Char.isHexDigit, hdigit]

/-- Parts that can be counted are groups, and perhaps an IPv4 address. -/
theorem parts_of_groupCount? {parts : List (List Char)} {n : Nat}
    (h : groupCount? parts = some n) :
    n ≤ parts.length + 1 ∧ ∀ part ∈ parts, isGroup part = true ∨ isIPv4 part = true := by
  induction parts generalizing n with
  | nil =>
      cases h
      exact ⟨Nat.zero_le _, nofun⟩
  | cons part rest ih =>
      cases rest with
      | nil =>
          rw [groupCount?] at h
          split at h
          · next hgroup =>
              cases h
              exact ⟨by simp, by simpa using .inl hgroup⟩
          · split at h
            · next hdotted =>
                cases h
                exact ⟨by simp, by simpa using .inr hdotted⟩
            · cases h
      | cons next rest =>
          rw [groupCount?] at h
          · split at h
            · next hgroup =>
                obtain ⟨m, hm, rfl⟩ := Option.map_eq_some_iff.mp h
                obtain ⟨hle, hrest⟩ := ih hm
                refine ⟨by simpa using hle, fun found hfound => ?_⟩
                obtain rfl | hfound := List.mem_cons.mp hfound
                · exact .inl hgroup
                · exact hrest found hfound
            · cases h
          · exact nofun

theorem chars_of_pieces (h : ∀ part ∈ pieces s, isGroup part = true ∨ isIPv4 part = true)
    (hc : c ∈ s) : isIPv6Char c = true := by
  have hnonempty : s.isEmpty = false := List.isEmpty_eq_false_iff_exists_mem.mpr ⟨c, hc⟩
  simp only [pieces, hnonempty, Bool.false_eq_true, if_false] at h
  obtain rfl | ⟨part, hpart, hmem⟩ := mem_splitOn ':' hc
  · rfl
  · exact isIPv6Char_of_part (h part hpart) hmem

theorem length_splitOn (separator : Char) (s : List Char) :
    (s.splitOn separator).length = s.count separator + 1 := by
  induction s with
  | nil => rfl
  | cons c rest ih =>
      rw [List.splitOn_cons_eq_if_modifyHead, List.count_cons]
      split
      · rw [List.length_cons, ih]
      · rw [List.length_modifyHead, ih, Nat.add_zero]

/-- A double colon at a position. -/
theorem split_at_gap {i : Nat} (h : (s.drop i).take 2 = [':', ':']) :
    s = s.take i ++ ':' :: ':' :: s.drop (i + 2) := by
  have hdrop : s.drop i = [':', ':'] ++ s.drop (i + 2) := by
    rw [← h, ← List.drop_drop, List.take_append_drop]
  calc s = s.take i ++ s.drop i := (List.take_append_drop i s).symm
    _ = s.take i ++ ':' :: ':' :: s.drop (i + 2) := by rw [hdrop]; rfl

/-- An IPv6 address has at least two colons, and no brackets. -/
theorem isIPv6_colons (h : isIPv6 s = true) :
    2 ≤ s.count ':' ∧ ∀ c ∈ s, isIPv6Char c = true := by
  simp only [isIPv6, Bool.or_eq_true, beq_iff_eq, List.any_eq_true] at h
  obtain hfull | ⟨i, -, hshort⟩ := h
  · obtain ⟨hcount, hparts⟩ := parts_of_groupCount? hfull
    refine ⟨?_, fun c hc => chars_of_pieces hparts hc⟩
    unfold pieces at hcount
    split at hcount
    · simp at hcount
    · rw [length_splitOn] at hcount
      omega
  · simp only [isShortenedAt, Bool.and_eq_true, beq_iff_eq, List.all_eq_true,
      Option.any_eq_true] at hshort
    obtain ⟨⟨hgap, hfront⟩, n, hback, -⟩ := hshort
    have hsplit := split_at_gap hgap
    constructor
    · rw [hsplit, List.count_append, List.count_cons_self, List.count_cons_self]
      omega
    · intro c hc
      rw [hsplit] at hc
      simp only [List.mem_append, List.mem_cons] at hc
      obtain hc | rfl | rfl | hc := hc
      · exact chars_of_pieces (fun part hpart => .inl (hfront part hpart)) hc
      · rfl
      · rfl
      · exact chars_of_pieces (parts_of_groupCount? hback).2 hc

/-- What stands for a host: a name, an IPv4 address or an IPv6 address. -/
def IsHost (s : String) : Prop :=
  isName s.toList = true ∨ isIPv4 s.toList = true ∨ isIPv6 s.toList = true

end Host

/-! ## Reading by the grammar -/

/-- What an address says. The host stands here without brackets. -/
structure Uri where
  scheme : String
  host : String
  port : Nat
deriving Repr, DecidableEq

namespace Uri

/-- A host at the start of a text, and the text behind it. -/
def takeHost? : List Char → Option (List Char × List Char)
  | '[' :: rest =>
    match rest.dropWhile (· != ']') with
    | _ :: behind => some (rest.takeWhile (· != ']'), behind)
    | [] => none
  | s => some (s.takeWhile (· != ':'), s.dropWhile (· != ':'))

/-- A colon and a decimal number, up to the end. -/
def takePort? : List Char → Option Nat
  | ':' :: digits =>
    if !digits.isEmpty && digits.all Char.isDigit then some (Nat.ofDigitChars 10 digits 0)
    else none
  | _ => none

/-- What a text says as an address, if it is one. -/
def read? (text : String) : Option Uri :=
  let scheme := String.ofList (text.toList.takeWhile (· != ':'))
  match text.toList.dropWhile (· != ':') with
  | ':' :: '/' :: '/' :: rest =>
    (takeHost? rest).bind fun (host, behind) =>
      (takePort? behind).map fun port => ⟨scheme, String.ofList host, port⟩
  | _ => none

/-- How a host may be written: as it is when it has no colon and starts with no bracket, and
between brackets otherwise. -/
inductive WrittenHost : List Char → List Char → Prop
  | plain {host : List Char} : ':' ∉ host → host.head? ≠ some '[' → WrittenHost host host
  | bracketed {host : List Char} : ']' ∉ host → WrittenHost host ('[' :: host ++ [']'])

/-- The grammar: scheme, `://`, host, `:` and decimal digits. -/
def Written (u : Uri) (text : String) : Prop :=
  ∃ host digits, text.toList = u.scheme.toList ++ ':' :: '/' :: '/' :: (host ++ ':' :: digits) ∧
    ':' ∉ u.scheme.toList ∧ WrittenHost u.host.toList host ∧
    digits ≠ [] ∧ (∀ c ∈ digits, c.isDigit = true) ∧ Nat.ofDigitChars 10 digits 0 = u.port

/-! ### The reader follows the grammar -/

theorem takeWhile_until {s : List Char} {stop : Char} (h : stop ∉ s) (rest : List Char) :
    (s ++ stop :: rest).takeWhile (· != stop) = s ∧
      (s ++ stop :: rest).dropWhile (· != stop) = stop :: rest := by
  have hpasses : ∀ c ∈ s, (c != stop) = true := by
    intro c hc
    simpa using fun heq : c = stop => h (heq ▸ hc)
  rw [List.takeWhile_append_of_pos hpasses, List.dropWhile_append_of_pos hpasses]
  simp

theorem not_mem_takeWhile (s : List Char) (stop : Char) : stop ∉ s.takeWhile (· != stop) := by
  intro h
  have hall := List.all_takeWhile (p := (· != stop)) (l := s)
  simpa using List.all_eq_true.mp hall stop h

/-- What is left when a scan stops starts with the character that stopped it. -/
theorem dropWhile_cons {s behind : List Char} {c stop : Char}
    (h : s.dropWhile (· != stop) = c :: behind) :
    c = stop ∧ s = s.takeWhile (· != stop) ++ stop :: behind := by
  have hc : c = stop := by
    have hhead := List.head?_dropWhile_not (· != stop) s
    rw [h] at hhead
    simpa using hhead
  subst hc
  exact ⟨rfl, by rw [← h, List.takeWhile_append_dropWhile]⟩

theorem written_of_takeHost? {s host behind : List Char} (h : takeHost? s = some (host, behind)) :
    ∃ written, WrittenHost host written ∧ s = written ++ behind := by
  unfold takeHost? at h
  split at h
  · next rest =>
      split at h
      · next c after hdrop =>
          obtain ⟨rfl, hrest⟩ := dropWhile_cons hdrop
          cases h
          refine ⟨_, .bracketed (not_mem_takeWhile rest _), ?_⟩
          rw [List.append_assoc, List.cons_append, List.singleton_append, ← hrest]
      · cases h
  · next hplain =>
      cases h
      refine ⟨_, .plain (not_mem_takeWhile s _) fun hhead => ?_,
        List.takeWhile_append_dropWhile.symm⟩
      cases s with
      | nil => cases hhead
      | cons c rest =>
          rw [List.takeWhile_cons] at hhead
          split at hhead
          · cases hhead
            exact hplain rest rfl
          · cases hhead

theorem takeHost?_of_written {host written : List Char} (h : WrittenHost host written)
    (behind : List Char) : takeHost? (written ++ ':' :: behind) = some (host, ':' :: behind) := by
  cases h with
  | plain hcolon hbracket =>
      obtain ⟨htake, hdrop⟩ := takeWhile_until hcolon behind
      unfold takeHost?
      split
      · next rest heq =>
          cases host with
          | nil => cases heq
          | cons c host =>
              cases heq
              exact absurd rfl hbracket
      · rw [htake, hdrop]
  | bracketed hclosing =>
      obtain ⟨htake, hdrop⟩ := takeWhile_until hclosing (':' :: behind)
      rw [List.append_assoc, List.cons_append, List.singleton_append, takeHost?, htake, hdrop]

theorem takePort?_eq_some_iff {s : List Char} {port : Nat} :
    takePort? s = some port ↔ ∃ digits, s = ':' :: digits ∧ digits ≠ [] ∧
      (∀ c ∈ digits, c.isDigit = true) ∧ Nat.ofDigitChars 10 digits 0 = port := by
  unfold takePort?
  split
  · next digits => simp [and_assoc]
  · next hother =>
      constructor
      · intro hport
        cases hport
      · rintro ⟨digits, rfl, -⟩
        exact absurd rfl (hother digits)

/-- The reader accepts exactly what the grammar generates, and gives back what was written. -/
theorem read?_eq_some_iff {text : String} {u : Uri} : read? text = some u ↔ u.Written text := by
  unfold read?
  constructor
  · intro h
    simp only at h
    split at h
    · next rest hdrop =>
        obtain ⟨⟨host, behind⟩, hhost, h⟩ := Option.bind_eq_some_iff.mp h
        obtain ⟨port, hport, rfl⟩ := Option.map_eq_some_iff.mp h
        obtain ⟨written, hwritten, rfl⟩ := written_of_takeHost? hhost
        obtain ⟨digits, rfl, hne, hdigits, hvalue⟩ := takePort?_eq_some_iff.mp hport
        obtain ⟨-, htext⟩ := dropWhile_cons hdrop
        refine ⟨written, digits, ?_, ?_, ?_, hne, hdigits, hvalue⟩
        · simpa using htext
        · simpa using not_mem_takeWhile text.toList ':'
        · simpa using hwritten
    · cases h
  · rintro ⟨written, digits, htext, hscheme, hwritten, hne, hdigits, hvalue⟩
    obtain ⟨htake, hdrop⟩ :=
      takeWhile_until hscheme ('/' :: '/' :: (written ++ ':' :: digits))
    have hport : takePort? (':' :: digits) = some u.port :=
      takePort?_eq_some_iff.mpr ⟨digits, rfl, hne, hdigits, hvalue⟩
    simp [htext, htake, hdrop, takeHost?_of_written hwritten, hport]

end Uri

/-! ## The address of an instance -/

namespace ServiceInstance

/-- What the address of an instance has to say. -/
def asUri (i : ServiceInstance) : Uri := ⟨i.scheme, i.host, i.port.toNat⟩

def bracketedUri (i : ServiceInstance) : String :=
  i.scheme ++ "://[" ++ i.host ++ "]:" ++ intText i.port

variable {i : ServiceInstance}

theorem intText_toList {n : Int} (h : 0 ≤ n) : (intText n).toList = Nat.toDigits 10 n.toNat := by
  have hsign : ¬ n < 0 := by omega
  have habs : n.natAbs = n.toNat := by omega
  simp [intText, natDigits, hsign, habs]

theorem uri_toList (h : 0 ≤ i.port) : i.uri.toList =
    i.scheme.toList ++ ':' :: '/' :: '/' ::
      (i.host.toList ++ ':' :: Nat.toDigits 10 i.port.toNat) := by
  simp [uri, intText_toList h]

theorem scheme_free (i : ServiceInstance) : ':' ∉ i.scheme.toList := by
  unfold scheme
  split <;> decide

/-- A host that is written as it is, or between brackets, comes back with scheme and port. -/
theorem written_of_host {text : String} {host : List Char}
    (htext : text.toList = i.scheme.toList ++ ':' :: '/' :: '/' ::
      (host ++ ':' :: Nat.toDigits 10 i.port.toNat))
    (hhost : Uri.WrittenHost i.host.toList host) : i.asUri.Written text :=
  ⟨host, Nat.toDigits 10 i.port.toNat, htext, i.scheme_free, hhost, Nat.toDigits_ne_nil,
    fun _ hc => Nat.isDigit_of_mem_toDigits (by decide) (by decide) hc,
    Nat.ofDigitChars_toDigits (by decide) (by decide)⟩

/-- An address with two more colons in its host says nothing: a host without brackets has no
colon. -/
theorem not_written_of_colons {u : Uri} (h : 0 ≤ i.port) (hcolons : 2 ≤ i.host.toList.count ':')
    (hbracket : i.host.toList.head? ≠ some '[') : ¬ u.Written i.uri := by
  rintro ⟨written, digits, htext, hscheme, hwritten, -, hdigits, -⟩
  rw [uri_toList h] at htext
  have hrest : i.host.toList ++ ':' :: Nat.toDigits 10 i.port.toNat =
      written ++ ':' :: digits := by
    have hdrop := congrArg (List.dropWhile (· != ':')) htext
    rw [(Uri.takeWhile_until i.scheme_free _).2, (Uri.takeWhile_until hscheme _).2] at hdrop
    simpa using hdrop
  cases hwritten with
  | plain hcolon =>
      have hnone : digits.count ':' = 0 :=
        List.count_eq_zero.mpr fun hmem => absurd (hdigits ':' hmem) (by decide)
      have hcount := congrArg (List.count ':') hrest
      rw [List.count_append, List.count_append, List.count_cons_self, List.count_cons_self,
        List.count_eq_zero.mpr hcolon, hnone] at hcount
      omega
  | bracketed =>
      cases hhost : i.host.toList with
      | nil =>
          rw [hhost] at hcolons
          cases hcolons
      | cons c host =>
          rw [hhost] at hrest hbracket
          exact hbracket (by simpa using congrArg List.head? hrest)

theorem plainHost_of_isHost (h : Host.IsHost i.host) (hother : Host.isIPv6 i.host.toList = false) :
    Uri.WrittenHost i.host.toList i.host.toList := by
  have hchars : ∀ c ∈ i.host.toList, c = '.' ∨ c = '-' ∨ c.isAlphanum = true := by
    intro c hc
    obtain hname | hdotted | hlong := h
    · exact Host.isName_chars hname hc
    · obtain rfl | hdigit := Host.isIPv4_chars hdotted hc
      · exact .inl rfl
      · exact .inr (.inr (by simp [Char.isAlphanum, hdigit]))
    · rw [hother] at hlong
      cases hlong
  refine .plain (fun hmem => ?_) fun hhead => ?_
  · exact absurd (hchars ':' hmem) (by decide)
  · exact absurd (hchars '[' (List.mem_of_head? hhead)) (by decide)

/-- The address of an instance says its scheme, its host and its port, unless the host is an IPv6
address. With such a host the address cannot be read; between brackets it could. -/
theorem uri_read_unless_ipv6 (i : ServiceInstance) (hhost : Host.IsHost i.host)
    (hport : 0 ≤ i.port ∧ i.port ≤ 65535) :
    (Uri.read? i.uri = some i.asUri ↔ Host.isIPv6 i.host.toList = false) ∧
      (i.asUri.scheme = "https" ↔ i.secure = true) ∧ i.asUri.host = i.host ∧
      (i.asUri.port : Int) = i.port ∧
      (Host.isIPv6 i.host.toList = true → Uri.read? i.uri = none ∧
        Uri.read? i.bracketedUri = some i.asUri) := by
  have hunreadable : Host.isIPv6 i.host.toList = true → Uri.read? i.uri = none := by
    intro hlong
    obtain ⟨hcolons, hchars⟩ := Host.isIPv6_colons hlong
    refine Option.eq_none_iff_forall_ne_some.mpr fun u hread => ?_
    refine not_written_of_colons hport.1 hcolons (fun hhead => ?_) (Uri.read?_eq_some_iff.mp hread)
    exact absurd (hchars '[' (List.mem_of_head? hhead)) (by decide)
  refine ⟨⟨fun hread => ?_, fun hother => ?_⟩, ?_, rfl, Int.toNat_of_nonneg hport.1,
    fun hlong => ⟨hunreadable hlong, ?_⟩⟩
  · cases hlong : Host.isIPv6 i.host.toList with
    | false => rfl
    | true =>
        rw [hunreadable hlong] at hread
        cases hread
  · exact Uri.read?_eq_some_iff.mpr
      (written_of_host (uri_toList hport.1) (plainHost_of_isHost hhost hother))
  · cases hsecure : i.secure <;> simp [asUri, scheme, hsecure]
  · have hbracketed : Uri.WrittenHost i.host.toList ('[' :: i.host.toList ++ [']']) :=
      .bracketed fun hmem => absurd ((Host.isIPv6_colons hlong).2 ']' hmem) (by decide)
    refine Uri.read?_eq_some_iff.mpr (written_of_host ?_ hbracketed)
    simp [bracketedUri, intText_toList hport.1]

/-- An instance on a pod with an IPv6 address. -/
def longAddressed : ServiceInstance :=
  ⟨none, "web", none, "fd00::1", 8080, [], false⟩

/-- The address of an instance with an IPv6 address cannot be read. -/
theorem uri_of_longAddressed :
    longAddressed.uri = "http://fd00::1:8080" ∧ Uri.read? longAddressed.uri = none ∧
      Uri.read? "http://[fd00::1]:8080" = some ⟨"http", "fd00::1", 8080⟩ := by
  have hlong : Host.isIPv6 longAddressed.host.toList = true := by decide +kernel
  obtain ⟨-, -, -, -, h⟩ := uri_read_unless_ipv6 longAddressed (.inr (.inr hlong)) (by decide)
  refine ⟨by decide +kernel, (h hlong).1, ?_⟩
  have htext : longAddressed.bracketedUri = "http://[fd00::1]:8080" := by decide +kernel
  rw [← htext]
  exact (h hlong).2

end ServiceInstance

end ClusterDiscovery
