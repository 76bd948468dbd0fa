import ClusterDiscovery.Expression.JsonText
import ClusterDiscovery.Expression.Paths
import ClusterDiscovery.Expression.TextMethods

/-! # Filters on texts

Filters whose result is a text. Values of other kinds are taken by their plain text. -/

namespace ClusterDiscovery.Expression

open ClusterDiscovery.Text

/-- A value as a text, where markup stays markup. -/
def softText (v : Value) : Run TextReceiver := do
  match v with
  | .text s => return ⟨s.toList, false⟩
  | .markup s => return ⟨s.toList, true⟩
  | v => return ⟨(← lift (plainText (← get) v)).toList, false⟩

def isTitleGap (c : Char) : Bool := isBlank c || "-(\x7b[<".toList.contains c

/-- Every word, as the gaps divide the text, starts with a capital. -/
def titleByGaps (s : List Char) : List Char :=
  let rec go : Nat → List Char → List Char
    | 0, _ => []
    | _, [] => []
    | fuel + 1, c :: rest =>
      if isTitleGap c then c :: go fuel rest
      else
        let word := rest.takeWhile fun d => !isTitleGap d
        upperOf c ++ lower word ++ go fuel (rest.dropWhile fun d => !isTitleGap d)
  go (s.length + 1) s

def wordCount (s : List Char) : Nat :=
  let rec go (inWord : Bool) : List Char → Nat
    | [] => 0
    | c :: rest =>
      let here := isWordPart c
      (if here && !inWord then 1 else 0) + go here rest
  go false s

/-- Both sides of a comparison of lengths that has to hold. -/
def requireAtLeast (store : Store) (v : Value) (least : Int) : Except Fault Unit := do
  if !(← ordered store .ge v (.int least)) then throw .unmetCondition

/-- A text cut to a length, at a word unless words may be cut. Texts that are too long by no more
than the leeway are kept. -/
def truncated (args : Arguments) (v : Value) : Run Value := do
  let signature : Signature := ⟨["s"], ["length", "killwords", "end", "leeway"]⟩
  let [_, size, cutWords, tail, leeway] ← lift (signature.bind ⟨v :: args.positional, args.named⟩)
    | throw .wrongType
  let size := size.getD (.int 255)
  let tail := tail.getD (.text "...")
  let leeway := match leeway with
    | none => .int 5
    | some .null => .int 5
    | some v => v
  let store ← get
  let tailSize ← lift (length store tail)
  lift (requireAtLeast store size tailSize)
  lift (requireAtLeast store leeway 0)
  let longest ← add size leeway
  if ← lift (ordered store .le (.int (← lift (length store v))) longest) then return v
  let start ← sliceOf v .null (← numeric .sub size (.int tailSize)) .null
  if truthy store (cutWords.getD (.bool false)) then add start tail
  else
    match start with
    | .text s =>
      let pieces := splitOnRight [' '] (some 1) s.toList
      add (.text (String.ofList (pieces.head?.getD []))) tail
    | .markup s =>
      let pieces := splitOnRight [' '] (some 1) s.toList
      add (.markup (String.ofList (pieces.head?.getD []))) tail
    | _ => throw .noMember

/-- Plain replacement on plain texts. -/
def replaced (args : Arguments) (v : Value) : Run Value := do
  let signature : Signature := ⟨["s", "old", "new"], ["count"]⟩
  let [_, some old, some new, limit] ← lift (signature.bind ⟨v :: args.positional, args.named⟩)
    | throw .wrongType
  let store ← get
  let s ← lift (plainText store v)
  let old ← lift (plainText store old)
  let new ← lift (plainText store new)
  let limit ← match limit with
    | none => pure (-1)
    | some .null => pure (-1)
    | some v => lift (intArgument v)
  return .text (String.ofList (replace old.toList new.toList (limitOf limit) s.toList))

/-- A percent template filled in with arguments of one kind. -/
def filledFormat (args : Arguments) (v : Value) : Run Value := do
  if !args.positional.isEmpty && !args.named.isEmpty then
    throw (.badFilterArgument "can't handle positional and keyword arguments at the same time")
  let r ← softText v
  let supplied ←
    if args.named.isEmpty then pure (.tuple args.positional)
    else Run.alloc (.map (args.named.map fun (name, v) => (.text name, v)))
  return r.give (← fillPercent r.isMarkup (String.ofList r.chars) supplied).toList

/-- The layout that an indentation argument asks for. -/
def jsonLayout (v : Value) : Except Fault JsonLayout :=
  match v, v.text? with
  | .null, _ => pure ⟨none⟩
  | _, some s => pure ⟨some s⟩
  | v, none => do
    let n ← intArgument v
    return ⟨some (String.ofList (List.replicate n.toNat ' '))⟩

def textFilter? (e : Engine) (name : String) (v : Value) (args : Arguments) :
    Option (Run Value) :=
  let bare (parameter : String) (run : Run Value) : Run Value := do
    let _ ← lift ((⟨[parameter], []⟩ : Signature).bind ⟨v :: args.positional, args.named⟩)
    run
  let cased (change : List Char → List Char) : Run Value := bare "s" do
    let r ← softText v
    return r.give (change r.chars)
  match name with
  | "capitalize" => some (cased capitalize)
  | "lower" => some (cased lower)
  | "upper" => some (cased upper)
  | "title" => some (bare "s" do
      return .text (String.ofList (titleByGaps (← softText v).chars)))
  | "string" => some (bare "object" do
      let r ← softText v
      return r.give r.chars)
  | "wordcount" => some (bare "s" do return .int (wordCount (← softText v).chars))
  | "safe" => some (bare "value" do return .markup (← lift (plainText (← get) v)))
  | "e" | "escape" => some (bare "s" do return .markup (← lift (escapedText (← get) v)))
  | "forceescape" => some (bare "value" do
      return .markup (escapeMarkup (← lift (plainText (← get) v))))
  | "center" => some do
      let [_, width] ← lift ((⟨["value"], ["width"]⟩ : Signature).bind
        ⟨v :: args.positional, args.named⟩) | throw .wrongType
      let r ← softText v
      return r.give (center (← lift (sizeArgument (width.getD (.int 80)))) ' ' r.chars)
  | "trim" => some do
      let [_, chars] ← lift ((⟨["value"], ["chars"]⟩ : Signature).bind
        ⟨v :: args.positional, args.named⟩) | throw .wrongType
      lift (trimmed trimWhere (← softText v) ⟨chars.toList, []⟩)
  | "truncate" => some (truncated args v)
  | "replace" => some (replaced args v)
  | "format" => some (filledFormat args v)
  | "join" => some do
      let [_, separator, path] ← lift ((⟨["value"], ["d", "attribute"]⟩ : Signature).bind
        ⟨v :: args.positional, args.named⟩) | throw .wrongType
      let steps ← match path with
        | none => pure []
        | some p => lift (pathOf p)
      let separator ← lift (plainText (← get) (separator.getD (.text "")))
      let id ← iterate v
      let parts ← drain (fun id => do
        match ← e.next id with
        | none => return none
        | some x =>
          let x ← followSteps none steps x
          return some (.text (← lift (plainText (← get) x)))) drawLimit id
      let parts := parts.map fun p => (p.text?.getD "").toList
      return .text (String.ofList (List.intercalate separator.toList parts))
  | "tojson" => some do
      let [_, indent] ← lift ((⟨["value"], ["indent"]⟩ : Signature).bind
        ⟨v :: args.positional, args.named⟩) | throw .wrongType
      let layout ← match v.text? with
        | some _ => pure ⟨none⟩
        | none => lift (jsonLayout (indent.getD .null))
      return .markup (markupSafe (← lift (jsonText (← get) layout v)))
  | _ => none

end ClusterDiscovery.Expression
