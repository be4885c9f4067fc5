import TunnelCore.Library.DnsMessage
import TunnelCore.Library.Hex
import TunnelCore.Library.DottedQuad

namespace TunnelCore.Obfuscation

open Text (toUtf8)

def dot : UInt8 := 0x2E

def hexU16 (value : Int) : List Char :=
  let v := (value % 0x10000).toNat
  Hex.encode [UInt8.ofNat (v / 256), UInt8.ofNat v]

/-- The loop over the labels, which gives up at the first that is empty or too long. -/
def appendLabels (encoded : List UInt8) : List (List UInt8) → Option (List UInt8)
  | [] => some encoded
  | label :: labels =>
    if label = [] ∨ label.length > 63 then none
    else appendLabels (encoded ++ [UInt8.ofNat label.length] ++ label) labels

def dnsNameHex (domain : List Char) : List Char :=
  match appendLabels [] ((toUtf8 domain).splitOn dot) with
  | none => []
  | some encoded => Hex.encode (encoded ++ [0])

def typeHex (ipv6 : Bool) : List Char := if ipv6 then "001c".toList else "0001".toList

def headerText : List Char := "01000001000000000001".toList

def recordText : List Char := "000100002904d000000000".toList

def paddingCodeText : List Char := "000c".toList

def dnsQueryExpression (domain : List Char) (ipv6 : Bool) (paddingBytes : Int) : List Char :=
  let qname := dnsNameHex domain
  if qname = [] then []
  else
    let queryType := typeHex ipv6
    let rdLength := hexU16 (4 + paddingBytes)
    let paddingLength := hexU16 paddingBytes
    "<r 2><b 0x".toList ++ headerText ++ qname ++ queryType ++ recordText ++ rdLength ++ paddingCodeText ++
      paddingLength ++ "><r ".toList ++ (toString paddingBytes).toList ++ ['>']

section Names

def HostName (domain : List Char) : Prop := ∀ label ∈ (toUtf8 domain).splitOn dot, Dns.ValidLabel label

instance (domain : List Char) : Decidable (HostName domain) := inferInstanceAs (Decidable (∀ label ∈ _, _))

def nameText (name : Dns.Name) : Option (List Char) :=
  (List.toByteArray ([dot].intercalate name)).utf8Decode?.map Array.toList

theorem nameText_splitOn (domain : List Char) : nameText ((toUtf8 domain).splitOn dot) = some domain := by
  have hjoin : List.toByteArray ([dot].intercalate ((toUtf8 domain).splitOn dot)) = domain.utf8Encode := by
    rw [List.intercalate_splitOn]
    rfl
  rw [nameText, hjoin, List.utf8Decode?_utf8Encode]
  rfl

theorem appendLabels_eq (encoded : List UInt8) (labels : List (List UInt8)) :
    appendLabels encoded labels =
      if ∀ label ∈ labels, Dns.ValidLabel label then some (encoded ++ labels.flatMap Dns.encodeLabel) else none := by
  induction labels generalizing encoded with
  | nil => simp [appendLabels]
  | cons label labels ih =>
    have hbad : (label = [] ∨ label.length > 63) ↔ ¬Dns.ValidLabel label := by
      rw [Dns.ValidLabel, not_and_or, not_not, Nat.not_le]
    rw [appendLabels, ih]
    by_cases hlabel : Dns.ValidLabel label
    · rw [if_neg (hbad.not.mpr (not_not_intro hlabel))]
      simp [hlabel, Dns.encodeLabel]
    · rw [if_pos (hbad.mpr hlabel), if_neg fun h => hlabel (h label List.mem_cons_self)]

theorem dnsNameHex_eq (domain : List Char) :
    dnsNameHex domain = if HostName domain then Hex.encode (Dns.encodeName ((toUtf8 domain).splitOn dot)) else [] := by
  rw [dnsNameHex, appendLabels_eq]
  by_cases h : HostName domain
  · rw [if_pos h, if_pos (show ∀ label ∈ _, _ from h)]
    rfl
  · rw [if_neg h, if_neg (show ¬∀ label ∈ _, _ from h)]

end Names

section Tags

/-- A part of a packet's description: given bytes, or a number of random ones. -/
inductive Tag
  | bytes (bytes : List UInt8)
  | random (count : Nat)
  deriving DecidableEq

def readTag : List Char → Option Tag
  | '<' :: 'r' :: ' ' :: digits =>
    if digits ≠ [] ∧ digits.all Char.isDigit then some (.random (Text.decimal digits)) else none
  | '<' :: 'b' :: ' ' :: '0' :: 'x' :: digits => (Hex.decode digits).map .bytes
  | _ => none

def readExpression (text : List Char) : Option (List Tag) :=
  if (text.splitOn '>').getLast? = some [] then ((text.splitOn '>').dropLast).mapM readTag else none

def render (source : Nat → UInt8) : List Tag → List UInt8
  | [] => []
  | .bytes bytes :: tags => bytes ++ render source tags
  | .random count :: tags => (List.range count).map source ++ render (fun i => source (count + i)) tags

end Tags

section Expression

theorem hexU16_natCast {n : Nat} (h : n < 0x10000) : hexU16 n = Hex.encode (BigEndian.bytes 2 n) := by
  have hvalue : ((n : Int) % 0x10000).toNat = n := by omega
  rw [hexU16, hvalue]
  simp [BigEndian.bytes]

def queryType (ipv6 : Bool) : Nat := if ipv6 then Dns.typeAaaa else Dns.typeA

theorem typeHex_eq (ipv6 : Bool) : typeHex ipv6 = Hex.encode (BigEndian.bytes 2 (queryType ipv6)) := by
  cases ipv6 with
  | false => decide
  | true => decide

def headerBytes : List UInt8 :=
  BigEndian.bytes 2 0x0100 ++ (BigEndian.bytes 2 1 ++ (BigEndian.bytes 2 0 ++ (BigEndian.bytes 2 0 ++ BigEndian.bytes 2 1)))

def recordBytes : List UInt8 :=
  BigEndian.bytes 2 Dns.classIn ++ 0 :: (BigEndian.bytes 2 Dns.typeOpt ++ (BigEndian.bytes 2 1232 ++ BigEndian.bytes 4 0))

theorem headerText_eq : headerText = Hex.encode headerBytes := by decide

theorem recordText_eq : recordText = Hex.encode recordBytes := by decide

theorem paddingCodeText_eq : paddingCodeText = Hex.encode (BigEndian.bytes 2 Dns.optionPadding) := by decide

def fixedBytes (name : Dns.Name) (ipv6 : Bool) (padding : Nat) : List UInt8 :=
  headerBytes ++ Dns.encodeName name ++ BigEndian.bytes 2 (queryType ipv6) ++ recordBytes ++
    BigEndian.bytes 2 (4 + padding) ++ BigEndian.bytes 2 Dns.optionPadding ++ BigEndian.bytes 2 padding

theorem dnsQueryExpression_eq {domain : List Char} (h : HostName domain) (ipv6 : Bool) {padding : Nat}
    (hpadding : padding ≤ 65531) :
    dnsQueryExpression domain ipv6 padding =
      "<r 2".toList ++ '>' :: ("<b 0x".toList ++ Hex.encode (fixedBytes ((toUtf8 domain).splitOn dot) ipv6 padding) ++
        '>' :: ("<r ".toList ++ Nat.toDigits 10 padding ++ ['>'])) := by
  have hname : dnsNameHex domain = Hex.encode (Dns.encodeName ((toUtf8 domain).splitOn dot)) := by
    rw [dnsNameHex_eq, if_pos h]
  have hne : dnsNameHex domain ≠ [] := by
    rw [hname, Ne, Hex.encode_eq_nil_iff]
    exact List.append_ne_nil_of_right_ne_nil _ (List.cons_ne_nil _ _)
  have hrdLength : hexU16 (4 + (padding : Int)) = Hex.encode (BigEndian.bytes 2 (4 + padding)) :=
    hexU16_natCast (n := 4 + padding) (by omega)
  have hdigits : (toString (padding : Int)).toList = Nat.toDigits 10 padding := String.toList_ofList
  have hopen : "<r 2><b 0x".toList = "<r 2".toList ++ '>' :: "<b 0x".toList := by decide
  have hclose : "><r ".toList = '>' :: "<r ".toList := by decide
  rw [dnsQueryExpression, if_neg hne, hname, hrdLength, hexU16_natCast (by omega), typeHex_eq, headerText_eq, recordText_eq,
    paddingCodeText_eq, fixedBytes, hdigits, hopen, hclose]
  simp only [Hex.encode_append, List.append_assoc, List.cons_append]

theorem readTag_random (n : Nat) : readTag ("<r ".toList ++ Nat.toDigits 10 n) = some (.random n) := by
  have hdigits : Nat.toDigits 10 n ≠ [] ∧ (Nat.toDigits 10 n).all Char.isDigit = true :=
    ⟨Nat.toDigits_ne_nil, List.all_eq_true.mpr fun c hc => DottedQuad.isDigit_of_mem hc⟩
  have hread : readTag ("<r ".toList ++ Nat.toDigits 10 n) =
      if Nat.toDigits 10 n ≠ [] ∧ (Nat.toDigits 10 n).all Char.isDigit then
        some (.random (Text.decimal (Nat.toDigits 10 n))) else none := rfl
  rw [hread, if_pos hdigits, Text.decimal_toDigits]

theorem readTag_bytes (bytes : List UInt8) : readTag ("<b 0x".toList ++ Hex.encode bytes) = some (.bytes bytes) := by
  change (Hex.decode (Hex.encode bytes)).map Tag.bytes = _
  rw [Hex.decode_encode]
  rfl

theorem close_not_mem_encode (bytes : List UInt8) : '>' ∉ Hex.encode bytes := by
  intro hmem
  obtain ⟨n, hn, hc⟩ := Hex.mem_encode hmem
  revert n
  decide

theorem close_not_mem_digits (n : Nat) : '>' ∉ Nat.toDigits 10 n := fun h => absurd (DottedQuad.isDigit_of_mem h) (by decide)

theorem readExpression_dnsQueryExpression {domain : List Char} (h : HostName domain) (ipv6 : Bool) {padding : Nat}
    (hpadding : padding ≤ 65531) :
    readExpression (dnsQueryExpression domain ipv6 padding) =
      some [.random 2, .bytes (fixedBytes ((toUtf8 domain).splitOn dot) ipv6 padding), .random padding] := by
  have hid : '>' ∉ "<r 2".toList := by decide
  have hfixed (bytes : List UInt8) : '>' ∉ "<b 0x".toList ++ Hex.encode bytes := by
    rw [List.mem_append, not_or]
    exact ⟨by decide, close_not_mem_encode bytes⟩
  have hrandom : '>' ∉ "<r ".toList ++ Nat.toDigits 10 padding := by
    rw [List.mem_append, not_or]
    exact ⟨by decide, close_not_mem_digits padding⟩
  have hsplit : (dnsQueryExpression domain ipv6 padding).splitOn '>' =
      ["<r 2".toList, "<b 0x".toList ++ Hex.encode (fixedBytes ((toUtf8 domain).splitOn dot) ipv6 padding),
        "<r ".toList ++ Nat.toDigits 10 padding, []] := by
    rw [dnsQueryExpression_eq h ipv6 hpadding, Scan.splitOn_part hid, Scan.splitOn_part (hfixed _), Scan.splitOn_part hrandom]
    rfl
  have htwo : readTag "<r 2".toList = some (.random 2) := by decide
  rw [readExpression, hsplit, if_pos (by rfl)]
  simp only [List.dropLast, List.mapM_cons, List.mapM_nil, htwo, readTag_bytes, readTag_random]
  rfl

end Expression

section Packet

/-- What the packet of an expression says: one question for the domain, and the padding. -/
structure PaddedQuery (domain : List Char) (ipv6 : Bool) (padding : List UInt8) (message : Dns.Message) : Prop where
  question : ∃ name, nameText name = some domain ∧
    message.questions = [⟨name, queryType ipv6, Dns.classIn⟩]
  answers : message.answers = []
  authority : message.authority = []
  additional : ∃ opt : Dns.Record, message.additional = [opt] ∧ opt.name = [] ∧ opt.rtype = Dns.typeOpt ∧
    opt.rdLength = 4 + padding.length ∧ Dns.parseOptions opt.rdata = some [⟨Dns.optionPadding, padding.length, padding⟩]

theorem parse_packet {domain : List Char} (h : HostName domain) (ipv6 : Bool) {id padding : List UInt8}
    (hid : id.length = 2) (hpadding : padding.length ≤ 65531) :
    ∃ message, Dns.parse (id ++ fixedBytes ((toUtf8 domain).splitOn dot) ipv6 padding.length ++ padding) = some message ∧
      PaddedQuery domain ipv6 padding message := by
  have htype : queryType ipv6 < 256 ^ 2 := by cases ipv6 <;> decide
  have hlength : (Dns.encodeOption Dns.optionPadding padding).length = 4 + padding.length := by
    simp [Dns.encodeOption]
    omega
  have hbytes : id ++ fixedBytes ((toUtf8 domain).splitOn dot) ipv6 padding.length ++ padding =
      BigEndian.bytes 2 (BigEndian.value id) ++ (BigEndian.bytes 2 0x0100 ++ (BigEndian.bytes 2 1 ++ (BigEndian.bytes 2 0 ++
        (BigEndian.bytes 2 0 ++ (BigEndian.bytes 2 1 ++
          (Dns.encodeQuestion ⟨(toUtf8 domain).splitOn dot, queryType ipv6, Dns.classIn⟩ ++
            Dns.encodeOpt 1232 (Dns.encodeOption Dns.optionPadding padding))))))) := by
    have hvalue := BigEndian.bytes_value id
    rw [hid] at hvalue
    rw [Dns.encodeOpt, hlength, hvalue]
    simp only [fixedBytes, headerBytes, recordBytes, Dns.encodeQuestion, Dns.encodeOption, List.append_assoc,
      List.cons_append]
  have hquestion : Wire.Reads Dns.question _ _ :=
    Dns.reads_question (q := ⟨(toUtf8 domain).splitOn dot, queryType ipv6, Dns.classIn⟩) h htype (by simp only; decide)
  have hrecord : Wire.Reads Dns.record (Dns.encodeOpt 1232 (Dns.encodeOption Dns.optionPadding padding)) _ :=
    Dns.reads_encodeOpt (by decide) (by omega)
  rw [hbytes]
  refine ⟨_, Dns.parse_query (hid ▸ BigEndian.value_lt id) (by decide) hquestion hrecord, ?_⟩
  refine ⟨⟨_, nameText_splitOn domain, rfl⟩, rfl, rfl, _, rfl, rfl, rfl, hlength, ?_⟩
  exact Dns.parseOptions_encodeOption (by decide) (by omega)

theorem dnsQueryExpression_eq_nil {domain : List Char} (h : ¬HostName domain) (ipv6 : Bool) (paddingBytes : Int) :
    dnsQueryExpression domain ipv6 paddingBytes = [] := by
  rw [dnsQueryExpression, dnsNameHex_eq, if_neg h]
  rfl

/-- Every packet that an expression describes is a query for the domain with the padding behind it; a domain that is not
a host name has no expression. -/
theorem dnsQueryExpression_parses (domain : List Char) (ipv6 : Bool) :
    (HostName domain → ∀ padding : Nat, padding ≤ 65531 → ∃ tags fixed,
      readExpression (dnsQueryExpression domain ipv6 padding) = some tags ∧
      tags = [.random 2, .bytes fixed, .random padding] ∧
      ∀ source, ∃ message, Dns.parse (render source tags) = some message ∧
        PaddedQuery domain ipv6 ((List.range padding).map fun i => source (2 + i)) message) ∧
    (¬HostName domain → ∀ paddingBytes : Int, dnsQueryExpression domain ipv6 paddingBytes = []) := by
  refine ⟨fun h padding hpadding => ?_, fun h paddingBytes => dnsQueryExpression_eq_nil h ipv6 paddingBytes⟩
  refine ⟨_, _, readExpression_dnsQueryExpression h ipv6 hpadding, rfl, fun source => ?_⟩
  have hlength : ((List.range padding).map fun i => source (2 + i)).length = padding := by simp
  have hid : ((List.range 2).map source).length = 2 := by simp
  obtain ⟨message, hparse, hquery⟩ := parse_packet h ipv6 hid (hlength.trans_le hpadding)
  refine ⟨message, ?_, hquery⟩
  rw [hlength, List.append_assoc] at hparse
  rw [render, render, render, render, List.append_nil]
  exact hparse

/-- The decoy of the tests, with 24 bytes of padding. -/
theorem dnsQueryExpression_mail :
    dnsQueryExpression "mail.ru".toList true 24 =
      ("<r 2><b 0x01000001000000000001046d61696c02727500" ++ "001c000100002904d000000000001c000c0018><r 24>").toList ∧
    ∃ message, Dns.parse (render (fun _ => 0) ((readExpression (dnsQueryExpression "mail.ru".toList true 24)).getD [])) =
      some message ∧ PaddedQuery "mail.ru".toList true (List.replicate 24 0) message := by
  refine ⟨by decide +kernel, ?_⟩
  obtain ⟨tags, fixed, hread, -, hparse⟩ :=
    (dnsQueryExpression_parses "mail.ru".toList true).1 (by decide +kernel) 24 (by decide)
  have hread : readExpression (dnsQueryExpression "mail.ru".toList true 24) = some tags := hread
  rw [hread]
  exact hparse fun _ => 0

end Packet

end TunnelCore.Obfuscation
