import TunnelCore.Library.Wire

namespace TunnelCore.Dns

open Wire

abbrev Name := List (List UInt8)

structure Question where
  name : Name
  qtype : Nat
  qclass : Nat
  deriving DecidableEq

structure Record where
  name : Name
  rtype : Nat
  rclass : Nat
  ttl : Nat
  rdLength : Nat
  rdata : List UInt8
  deriving DecidableEq

structure Message where
  id : Nat
  flags : Nat
  questions : List Question
  answers : List Record
  authority : List Record
  additional : List Record
  deriving DecidableEq

structure EdnsOption where
  code : Nat
  length : Nat
  data : List UInt8
  deriving DecidableEq

def classIn : Nat := 1

def typeA : Nat := 1

def typeAaaa : Nat := 28

def typeOpt : Nat := 41

def optionPadding : Nat := 12

section Readers

/-- Labels of 1 to 63 bytes up to the empty one. A byte above 63 would start a pointer into the message, which is not
followed here. -/
def labels : Nat → Reader Name
  | 0 => failure
  | fuel + 1 => do
    let length ← uint 1
    if length = 0 then return []
    else if length ≤ 63 then
      let label ← take length
      let rest ← labels fuel
      return label :: rest
    else failure

def name : Reader Name := do labels (← get).length

def question : Reader Question := do
  let name ← name
  let qtype ← uint 2
  let qclass ← uint 2
  return ⟨name, qtype, qclass⟩

def record : Reader Record := do
  let name ← name
  let rtype ← uint 2
  let rclass ← uint 2
  let ttl ← uint 4
  let rdLength ← uint 2
  let rdata ← take rdLength
  return ⟨name, rtype, rclass, ttl, rdLength, rdata⟩

def message : Reader Message := do
  let id ← uint 2
  let flags ← uint 2
  let questionCount ← uint 2
  let answerCount ← uint 2
  let authorityCount ← uint 2
  let additionalCount ← uint 2
  let questions ← count question questionCount
  let answers ← count record answerCount
  let authority ← count record authorityCount
  let additional ← count record additionalCount
  return ⟨id, flags, questions, answers, authority, additional⟩

def parse (bytes : List UInt8) : Option Message := all message bytes

def ednsOption : Reader EdnsOption := do
  let code ← uint 2
  let length ← uint 2
  let data ← take length
  return ⟨code, length, data⟩

def parseOptions (rdata : List UInt8) : Option (List EdnsOption) := all (many ednsOption rdata.length) rdata

end Readers

section Encoding

def encodeLabel (label : List UInt8) : List UInt8 := UInt8.ofNat label.length :: label

def encodeName (labels : Name) : List UInt8 := labels.flatMap encodeLabel ++ [0]

def ValidLabel (label : List UInt8) : Prop := label ≠ [] ∧ label.length ≤ 63

instance (label : List UInt8) : Decidable (ValidLabel label) := inferInstanceAs (Decidable (_ ∧ _))

theorem reads_labels {ls : Name} (h : ∀ label ∈ ls, ValidLabel label) (fuel : Nat) :
    Reads (labels (fuel + ls.length + 1)) (encodeName ls) ls := by
  induction ls with
  | nil =>
    have hread : Reads (labels (fuel + 1)) ([0] ++ []) [] := (reads_byte (by decide)).bind (Reads.pure [])
    exact hread
  | cons label ls ih =>
    obtain ⟨⟨hne, hlength⟩, hrest⟩ := List.forall_mem_cons.mp h
    have hbytes : encodeName (label :: ls) = [UInt8.ofNat label.length] ++ (label ++ (encodeName ls ++ [])) := by
      simp [encodeName, encodeLabel]
    rw [hbytes]
    refine (reads_byte (by omega)).bind ?_
    rw [if_neg (mt List.length_eq_zero_iff.mp hne), if_pos hlength]
    exact (reads_take label).bind ((ih hrest).bind (Reads.pure _))

theorem length_lt_length_encodeName (ls : Name) : ls.length < (encodeName ls).length := by
  induction ls with
  | nil => exact Nat.one_pos
  | cons label ls ih =>
    have hlength : (encodeName (label :: ls)).length = label.length + 1 + (encodeName ls).length := by
      simp [encodeName, encodeLabel]
      omega
    rw [List.length_cons, hlength]
    omega

theorem reads_name {ls : Name} (h : ∀ label ∈ ls, ValidLabel label) : Reads name (encodeName ls) ls := by
  refine Reads.get fun rest => ?_
  have hfuel : ls.length < (encodeName ls ++ rest).length := by
    have := length_lt_length_encodeName ls
    rw [List.length_append]
    omega
  obtain ⟨fuel, hfuel⟩ := Nat.exists_eq_add_of_lt hfuel
  rw [hfuel, Nat.add_comm ls.length fuel]
  exact reads_labels h fuel rest

def encodeQuestion (q : Question) : List UInt8 :=
  encodeName q.name ++ (BigEndian.bytes 2 q.qtype ++ BigEndian.bytes 2 q.qclass)

theorem reads_question {q : Question} (h : ∀ label ∈ q.name, ValidLabel label) (htype : q.qtype < 256 ^ 2)
    (hclass : q.qclass < 256 ^ 2) : Reads question (encodeQuestion q) q := by
  have hread : Reads question (encodeName q.name ++ (BigEndian.bytes 2 q.qtype ++ (BigEndian.bytes 2 q.qclass ++ []))) q :=
    (reads_name h).bind ((reads_uint htype).bind ((reads_uint hclass).bind (Reads.pure q)))
  rwa [List.append_nil] at hread

def encodeOption (code : Nat) (data : List UInt8) : List UInt8 :=
  BigEndian.bytes 2 code ++ (BigEndian.bytes 2 data.length ++ data)

theorem parseOptions_encodeOption {code : Nat} {data : List UInt8} (hcode : code < 256 ^ 2) (hlength : data.length < 256 ^ 2) :
    parseOptions (encodeOption code data) = some [⟨code, data.length, data⟩] := by
  have hread : Reads ednsOption (BigEndian.bytes 2 code ++ (BigEndian.bytes 2 data.length ++ (data ++ [])))
      ⟨code, data.length, data⟩ :=
    (reads_uint hcode).bind ((reads_uint hlength).bind ((reads_take data).bind (Reads.pure _)))
  rw [List.append_nil] at hread
  change Reads ednsOption (encodeOption code data) _ at hread
  have hlong : (encodeOption code data).length = data.length + 3 + 1 := by
    simp [encodeOption]
    omega
  rw [parseOptions, all, hlong, hread.many_one (List.ne_nil_of_length_eq_add_one hlong)]

def encodeOpt (size : Nat) (rdata : List UInt8) : List UInt8 :=
  0 :: (BigEndian.bytes 2 typeOpt ++ (BigEndian.bytes 2 size ++ (BigEndian.bytes 4 0 ++
    (BigEndian.bytes 2 rdata.length ++ rdata))))

theorem reads_encodeOpt {size : Nat} {rdata : List UInt8} (hsize : size < 256 ^ 2) (hlength : rdata.length < 256 ^ 2) :
    Reads record (encodeOpt size rdata) ⟨[], typeOpt, size, 0, rdata.length, rdata⟩ := by
  have hroot : Reads name [0] [] := reads_name (List.forall_mem_nil _)
  have hread : Reads record ([0] ++ (BigEndian.bytes 2 typeOpt ++ (BigEndian.bytes 2 size ++ (BigEndian.bytes 4 0 ++
      (BigEndian.bytes 2 rdata.length ++ (rdata ++ [])))))) ⟨[], typeOpt, size, 0, rdata.length, rdata⟩ :=
    hroot.bind ((reads_uint (by decide)).bind ((reads_uint hsize).bind ((reads_uint (by decide)).bind
      ((reads_uint hlength).bind ((reads_take rdata).bind (Reads.pure _))))))
  rwa [List.append_nil] at hread

theorem parse_query {id flags : Nat} {q : Question} {r : Record} {questionBytes recordBytes : List UInt8}
    (hid : id < 256 ^ 2) (hflags : flags < 256 ^ 2) (hquestion : Reads question questionBytes q)
    (hrecord : Reads record recordBytes r) :
    parse (BigEndian.bytes 2 id ++ (BigEndian.bytes 2 flags ++ (BigEndian.bytes 2 1 ++ (BigEndian.bytes 2 0 ++
      (BigEndian.bytes 2 0 ++ (BigEndian.bytes 2 1 ++ (questionBytes ++ recordBytes))))))) =
      some ⟨id, flags, [q], [], [], [r]⟩ := by
  have hbody : Reads (do
      let questions ← count question 1
      let answers ← count record 0
      let authority ← count record 0
      let additional ← count record 1
      return (⟨id, flags, questions, answers, authority, additional⟩ : Message))
      (questionBytes ++ ([] ++ ([] ++ (recordBytes ++ [])))) ⟨id, flags, [q], [], [], [r]⟩ :=
    hquestion.count_one.bind ((Reads.pure []).bind ((Reads.pure []).bind (hrecord.count_one.bind (Reads.pure _))))
  rw [List.nil_append, List.nil_append, List.append_nil] at hbody
  refine Reads.all_eq ?_
  exact (reads_uint hid).bind ((reads_uint hflags).bind ((reads_uint (by decide)).bind ((reads_uint (by decide)).bind
    ((reads_uint (by decide)).bind ((reads_uint (by decide)).bind hbody)))))

end Encoding

end TunnelCore.Dns
