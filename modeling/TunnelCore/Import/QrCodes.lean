import TunnelCore.Library.Assoc
import TunnelCore.Library.Binary64
import TunnelCore.Library.Hex
import TunnelCore.Library.Text
import TunnelCore.Library.Wire

namespace TunnelCore.Import

structure Base64 where
  encode : List UInt8 → List Char
  decode : List Char → List UInt8
  decode_encode : ∀ bytes, decode (encode bytes) = bytes

def qrMagicCode : Nat := 1984

section Series

/-- `std::round`, away from zero in the middle. -/
def stdRound (x : ℚ) : ℤ := if 0 ≤ x then ⌊x + 1 / 2⌋ else ⌈x - 1 / 2⌉

def chunksCount (data : List UInt8) : UInt8 := .ofNat ⌈Binary64.round (data.length / 850)⌉.toNat

def chunkId (i : Nat) : UInt8 := .ofNat (stdRound (Binary64.round (i / 850))).toNat

def writeByteArray (bytes : List UInt8) : List UInt8 := BigEndian.bytes 4 bytes.length ++ bytes

def chunkBytes (data : List UInt8) (i : Nat) : List UInt8 :=
  BigEndian.bytes 2 qrMagicCode ++ ([chunksCount data] ++ ([chunkId i] ++ writeByteArray ((data.drop i).take 850)))

/-- The loop over the data. Its counter is an `int`, and adding 850.0 to it is exact. -/
def seriesFrom (base64 : Base64) (data : List UInt8) (i : Nat) : List (List Char) :=
  if i < data.length then base64.encode (chunkBytes data i) :: seriesFrom base64 data (i + 850) else []
  termination_by data.length - i
  decreasing_by omega

def generateQrCodeImageSeries (base64 : Base64) (data : List UInt8) : List (List Char) := seriesFrom base64 data 0

end Series

section Scanning

structure QrState where
  qrCodeChunks : List (Nat × List UInt8)
  totalQrCodeChunksCount : Nat
  receivedQrCodeChunksCount : Nat
  isQrCodeProcessed : Bool

variable {ε Config : Type}

structure QrParseResult (Config : Type) where
  success : Bool
  importResult : Option Config
  chunksReceived : Nat
  chunksTotal : Nat

structure QrCall (Config : Type) where
  state : QrState
  parseResult : QrParseResult Config
  extracted : List (List UInt8)

def startDecodingQr (_ : QrState) : QrState := ⟨[], 0, 0, true⟩

def readOr {α : Type} (default : α) (p : Wire.Reader α) (bytes : List UInt8) : α × List UInt8 :=
  (p.run bytes).getD (default, [])

def readByteArray : Wire.Reader (List UInt8) := do
  let size ← Wire.uint 4
  if size = 0xFFFFFFFF then return [] else Wire.take size

def assembled (chunks : List (Nat × List UInt8)) (total : Nat) : List UInt8 :=
  (List.range total).flatMap fun i => (Assoc.read chunks i).getD []

/-- With as many chunks as there are, the data is extracted; if it is no configuration, the scan starts over. -/
def collected (extractConfigFromQr : List UInt8 → Except ε Config) (chunks : List (Nat × List UInt8)) (total : Nat) :
    QrCall Config :=
  if chunks.length = total then
    match extractConfigFromQr (assembled chunks total) with
    | .ok config =>
      ⟨⟨chunks, total, chunks.length, false⟩, ⟨true, some config, chunks.length, total⟩, [assembled chunks total]⟩
    | .error _ => ⟨⟨[], 0, 0, true⟩, ⟨false, none, chunks.length, total⟩, [assembled chunks total]⟩
  else ⟨⟨chunks, total, chunks.length, true⟩, ⟨false, none, chunks.length, total⟩, []⟩

def receiveChunk (extractConfigFromQr : List UInt8 → Except ε Config) (s : QrState) (bytes : List UInt8) :
    QrCall Config :=
  let (chunksCount, rest) := readOr 0 (Wire.uint 1) bytes
  let kept := if s.totalQrCodeChunksCount ≠ chunksCount then [] else s.qrCodeChunks
  let (chunkId, rest) := readOr 0 (Wire.uint 1) rest
  let (chunk, _) := readOr [] readByteArray rest
  collected extractConfigFromQr (Assoc.insert chunkId chunk kept) chunksCount

def receiveWhole (extractConfigFromQr : List UInt8 → Except ε Config) (s : QrState) (code ba : List UInt8) :
    QrCall Config :=
  match extractConfigFromQr code with
  | .ok config => ⟨{ s with isQrCodeProcessed := false },
      ⟨true, some config, s.receivedQrCodeChunksCount, s.totalQrCodeChunksCount⟩, [code]⟩
  | .error _ =>
    match extractConfigFromQr ba with
    | .ok config => ⟨{ s with isQrCodeProcessed := false },
        ⟨true, some config, s.receivedQrCodeChunksCount, s.totalQrCodeChunksCount⟩, [code, ba]⟩
    | .error _ => ⟨s, ⟨false, none, s.receivedQrCodeChunksCount, s.totalQrCodeChunksCount⟩, [code, ba]⟩

def parseQrCodeChunk (base64 : Base64) (extractConfigFromQr : List UInt8 → Except ε Config) (s : QrState)
    (code : List Char) : QrCall Config :=
  if s.isQrCodeProcessed then
    let ba := base64.decode code
    let (magic, rest) := readOr 0 (Wire.uint 2) ba
    if magic = qrMagicCode then receiveChunk extractConfigFromQr s rest
    else receiveWhole extractConfigFromQr s (Text.toUtf8 code) ba
  else ⟨s, ⟨false, none, s.receivedQrCodeChunksCount, s.totalQrCodeChunksCount⟩, []⟩

def scanned (base64 : Base64) (extractConfigFromQr : List UInt8 → Except ε Config) (s : QrState)
    (codes : List (List Char)) : QrState :=
  codes.foldl (fun s code => (parseQrCodeChunk base64 extractConfigFromQr s code).state) (startDecodingQr s)

end Scanning

section Chunks

variable {data : List UInt8}

def chunkTotal (data : List UInt8) : Nat := (data.length + 849) / 850

def piece (data : List UInt8) (j : Nat) : List UInt8 := (data.drop (850 * j)).take 850

def chunkBody (data : List UInt8) (j : Nat) : List UInt8 :=
  [.ofNat (chunkTotal data)] ++ ([.ofNat j] ++ writeByteArray (piece data j))

def chunkCode (base64 : Base64) (data : List UInt8) (j : Nat) : List Char :=
  base64.encode (BigEndian.bytes 2 qrMagicCode ++ chunkBody data j)

theorem chunksCount_eq (h : data.length < 2 ^ 53) : chunksCount data = .ofNat (chunkTotal data) := by
  have hceil := Binary64.ceil_round_div h (b := 850) (by decide)
  rw [Rat.ceil_natCast_div_natCast] at hceil
  have hvalue : ⌈Binary64.round (data.length / 850)⌉.toNat = chunkTotal data := by
    rw [show (850 : ℚ) = ((850 : ℕ) : ℚ) from rfl, hceil, chunkTotal]
    omega
  rw [chunksCount, hvalue]

theorem chunkId_mul {j : Nat} (h : j < 2 ^ 53) : chunkId (850 * j) = .ofNat j := by
  have hquotient : ((850 * j : ℕ) : ℚ) / 850 = j := by
    rw [Nat.cast_mul, Nat.cast_ofNat, mul_div_cancel_left₀ _ (by norm_num)]
  have hround : stdRound j = j := by
    rw [stdRound, if_pos (Nat.cast_nonneg j), Int.floor_eq_iff]
    constructor <;> push_cast <;> linarith
  rw [chunkId, hquotient, Binary64.round_natCast h, hround, Int.toNat_natCast]

theorem seriesFrom_eq (base64 : Base64) (h : data.length < 2 ^ 53) {n j : Nat} (hn : chunkTotal data = j + n) :
    seriesFrom base64 data (850 * j) = (List.range' j n).map (chunkCode base64 data) := by
  induction n generalizing j with
  | zero =>
    rw [seriesFrom, if_neg (by rw [chunkTotal] at hn; omega)]
    rfl
  | succ n ih =>
    have hmore : 850 * j < data.length := by rw [chunkTotal] at hn; omega
    have hbytes : chunkBytes data (850 * j) = BigEndian.bytes 2 qrMagicCode ++ chunkBody data j := by
      rw [chunkBytes, chunksCount_eq h, chunkId_mul (by omega)]
      rfl
    rw [seriesFrom, if_pos hmore, hbytes, ← Nat.mul_succ, ih (by omega)]
    rfl

theorem series_eq (base64 : Base64) (h : data.length < 2 ^ 53) :
    generateQrCodeImageSeries base64 data = (List.range (chunkTotal data)).map (chunkCode base64 data) := by
  rw [List.range_eq_range']
  exact seriesFrom_eq base64 h (n := chunkTotal data) (j := 0) (Nat.zero_add _).symm

theorem chunkTotal_pos (h : data ≠ []) : 0 < chunkTotal data := by
  have := List.length_pos_of_ne_nil h
  rw [chunkTotal]
  omega

theorem chunkTotal_le (h : data.length ≤ 255 * 850) : chunkTotal data ≤ 255 := by
  rw [chunkTotal]
  omega

theorem flatMap_piece (data : List UInt8) (n : Nat) : (List.range n).flatMap (piece data) = data.take (850 * n) := by
  induction n with
  | zero => rw [Nat.mul_zero, List.take_zero]; rfl
  | succ n ih =>
    rw [List.range_succ, List.flatMap_append, ih, Nat.mul_succ, List.take_add]
    simp [piece]

theorem flatMap_piece_total (data : List UInt8) : (List.range (chunkTotal data)).flatMap (piece data) = data := by
  rw [flatMap_piece]
  exact List.take_of_length_le (by rw [chunkTotal]; omega)

theorem readOr_of_reads {α : Type} {p : Wire.Reader α} {bytes : List UInt8} {a : α} (h : Wire.Reads p bytes a)
    (default : α) (rest : List UInt8) : readOr default p (bytes ++ rest) = (a, rest) := by
  rw [readOr, h rest]
  rfl

theorem reads_byteArray {bytes : List UInt8} (h : bytes.length < 0xFFFFFFFF) :
    Wire.Reads readByteArray (writeByteArray bytes) bytes := by
  refine (Wire.reads_uint (show bytes.length < 256 ^ 4 by omega)).bind ?_
  rw [if_neg (Nat.ne_of_lt h)]
  exact Wire.reads_take bytes

variable {ε Config : Type} {extractConfigFromQr : List UInt8 → Except ε Config} {base64 : Base64}

theorem parseQrCodeChunk_chunkCode (hsize : data.length ≤ 255 * 850) {j : Nat} (hj : j < chunkTotal data) {s : QrState}
    (hactive : s.isQrCodeProcessed = true) :
    parseQrCodeChunk base64 extractConfigFromQr s (chunkCode base64 data j) =
      collected extractConfigFromQr (Assoc.insert j (piece data j)
        (if s.totalQrCodeChunksCount ≠ chunkTotal data then [] else s.qrCodeChunks)) (chunkTotal data) := by
  have htotal := chunkTotal_le hsize
  have hpiece : (piece data j).length < 0xFFFFFFFF := by
    rw [piece, List.length_take]
    omega
  have hmagic := readOr_of_reads (Wire.reads_uint (n := 2) (x := qrMagicCode) (by decide)) 0 (chunkBody data j)
  have hcount := readOr_of_reads (Wire.reads_byte (n := chunkTotal data) (by omega)) 0
    ([.ofNat j] ++ writeByteArray (piece data j))
  have hid := readOr_of_reads (Wire.reads_byte (n := j) (by omega)) 0 (writeByteArray (piece data j))
  have hchunk := readOr_of_reads (reads_byteArray hpiece) [] []
  rw [List.append_nil] at hchunk
  rw [parseQrCodeChunk, if_pos hactive, chunkCode, base64.decode_encode]
  simp only [hmagic, if_true]
  rw [receiveChunk, chunkBody]
  simp only [hcount, hid, hchunk]

theorem chunkCode_injective (hsize : data.length ≤ 255 * 850) {i j : Nat} (hi : i < chunkTotal data)
    (hj : j < chunkTotal data) (h : chunkCode base64 data i = chunkCode base64 data j) : i = j := by
  have htotal := chunkTotal_le hsize
  have hbytes := congrArg base64.decode h
  rw [chunkCode, chunkCode, base64.decode_encode, base64.decode_encode] at hbytes
  have hbody := List.append_cancel_left hbytes
  rw [chunkBody, chunkBody] at hbody
  have hid := congrArg UInt8.toNat (List.cons.inj (List.append_cancel_left hbody)).1
  rw [UInt8.toNat_ofNat', UInt8.toNat_ofNat'] at hid
  omega

theorem series_nodup (hsize : data.length ≤ 255 * 850) : (generateQrCodeImageSeries base64 data).Nodup := by
  rw [series_eq base64 (by omega)]
  refine List.Nodup.map_on (fun i hi j hj h => ?_) List.nodup_range
  exact chunkCode_injective hsize (List.mem_range.mp hi) (List.mem_range.mp hj) h

end Chunks

section Reassembly

variable {ε Config : Type} {extractConfigFromQr : List UInt8 → Except ε Config} {base64 : Base64} {data : List UInt8}
  {codes : List (List Char)}

def Complete (base64 : Base64) (data : List UInt8) (codes : List (List Char)) : Prop :=
  ∀ code ∈ generateQrCodeImageSeries base64 data, code ∈ codes

instance : Decidable (Complete base64 data codes) := inferInstanceAs (Decidable (∀ code ∈ _, _))

structure Holds (base64 : Base64) (data : List UInt8) (codes : List (List Char)) (chunks : List (Nat × List UInt8)) :
    Prop where
  distinct : (Assoc.keys chunks).Nodup
  length : chunks.length = codes.toFinset.card
  read : ∀ j, Assoc.read chunks j = if j < chunkTotal data ∧ chunkCode base64 data j ∈ codes then some (piece data j) else none

structure Collecting (base64 : Base64) (data : List UInt8) (codes : List (List Char)) (s : QrState) : Prop where
  active : s.isQrCodeProcessed = true
  total : s.totalQrCodeChunksCount = chunkTotal data ∨ s.qrCodeChunks = []
  chunks : Holds base64 data codes s.qrCodeChunks
  received : s.receivedQrCodeChunksCount = codes.toFinset.card

theorem toFinset_concat (codes : List (List Char)) (code : List Char) :
    (codes ++ [code]).toFinset = insert code codes.toFinset := by
  rw [List.toFinset_append, List.toFinset_cons, List.toFinset_nil, Finset.union_comm]
  rfl

theorem Holds.insert (hsize : data.length ≤ 255 * 850) {chunks : List (Nat × List UInt8)}
    (h : Holds base64 data codes chunks) {j : Nat} (hj : j < chunkTotal data) :
    Holds base64 data (codes ++ [chunkCode base64 data j]) (Assoc.insert j (piece data j) chunks) := by
  refine ⟨Assoc.nodup_keys_insert h.distinct _ _, ?_, fun i => ?_⟩
  · rw [Assoc.length_insert h.distinct, h.length, toFinset_concat]
    have hread := h.read j
    by_cases hmem : chunkCode base64 data j ∈ codes
    · rw [if_pos ⟨hj, hmem⟩] at hread
      rw [hread, if_neg (Option.some_ne_none _), Finset.insert_eq_of_mem (List.mem_toFinset.mpr hmem)]
    · rw [if_neg fun h => hmem h.2] at hread
      rw [if_pos hread, Finset.card_insert_of_notMem (mt List.mem_toFinset.mp hmem)]
  · rw [Assoc.read_insert]
    by_cases hij : i = j
    · subst hij
      rw [Function.update_self, if_pos ⟨hj, List.mem_append_right _ (List.mem_singleton_self _)⟩]
    · rw [Function.update_of_ne hij, h.read]
      refine if_congr (and_congr_right fun hi => ?_) rfl rfl
      have hne : chunkCode base64 data i ≠ chunkCode base64 data j := fun h => hij (chunkCode_injective hsize hi hj h)
      simp [hne]

theorem card_eq_iff_complete (hsize : data.length ≤ 255 * 850)
    (hcodes : ∀ code ∈ codes, code ∈ generateQrCodeImageSeries base64 data) :
    codes.toFinset.card = chunkTotal data ↔ Complete base64 data codes := by
  have hsubset : codes.toFinset ⊆ (generateQrCodeImageSeries base64 data).toFinset := fun code hcode =>
    List.mem_toFinset.mpr (hcodes code (List.mem_toFinset.mp hcode))
  have hcard : (generateQrCodeImageSeries base64 data).toFinset.card = chunkTotal data := by
    rw [List.toFinset_card_of_nodup (series_nodup hsize), series_eq base64 (by omega), List.length_map, List.length_range]
  constructor
  · intro hall code hcode
    have heq := Finset.eq_of_subset_of_card_le hsubset (by omega)
    exact List.mem_toFinset.mp (heq ▸ List.mem_toFinset.mpr hcode)
  · intro hall
    have hback : (generateQrCodeImageSeries base64 data).toFinset ⊆ codes.toFinset := fun code hcode =>
      List.mem_toFinset.mpr (hall code (List.mem_toFinset.mp hcode))
    rw [Finset.Subset.antisymm hsubset hback, hcard]

theorem Holds.assembled_eq (hsize : data.length ≤ 255 * 850) {chunks : List (Nat × List UInt8)}
    (h : Holds base64 data codes chunks) (hall : Complete base64 data codes) : assembled chunks (chunkTotal data) = data := by
  have hread : ∀ j ∈ List.range (chunkTotal data), (Assoc.read chunks j).getD [] = piece data j := by
    intro j hj
    have hcode : chunkCode base64 data j ∈ codes := by
      refine hall _ ?_
      rw [series_eq base64 (by omega)]
      exact List.mem_map_of_mem hj
    rw [h.read, if_pos ⟨List.mem_range.mp hj, hcode⟩]
    rfl
  rw [assembled, List.flatMap_congr hread, flatMap_piece_total]

theorem collecting_nil (s : QrState) : Collecting base64 data [] (startDecodingQr s) where
  active := rfl
  total := .inr rfl
  chunks := ⟨List.nodup_nil, rfl, fun _ => (if_neg fun h => List.not_mem_nil h.2).symm⟩
  received := rfl

theorem Collecting.step (hsize : data.length ≤ 255 * 850) {config : Config} (hextract : extractConfigFromQr data = .ok config)
    {s : QrState} (h : Collecting base64 data codes s) {code : List Char}
    (hcodes : ∀ c ∈ codes ++ [code], c ∈ generateQrCodeImageSeries base64 data) :
    ((parseQrCodeChunk base64 extractConfigFromQr s code).state.receivedQrCodeChunksCount =
        (codes ++ [code]).toFinset.card ∧
      (parseQrCodeChunk base64 extractConfigFromQr s code).parseResult.chunksReceived =
        (codes ++ [code]).toFinset.card) ∧
      if Complete base64 data (codes ++ [code]) then
        (parseQrCodeChunk base64 extractConfigFromQr s code).extracted = [data] ∧
          (parseQrCodeChunk base64 extractConfigFromQr s code).state.isQrCodeProcessed = false
      else
        (parseQrCodeChunk base64 extractConfigFromQr s code).extracted = [] ∧
          Collecting base64 data (codes ++ [code]) (parseQrCodeChunk base64 extractConfigFromQr s code).state := by
  have hcode := hcodes code (List.mem_append_right _ (List.mem_singleton_self _))
  rw [series_eq base64 (by omega)] at hcode
  obtain ⟨j, hj, rfl⟩ := List.mem_map.mp hcode
  rw [List.mem_range] at hj
  have hkept : (if s.totalQrCodeChunksCount ≠ chunkTotal data then [] else s.qrCodeChunks) = s.qrCodeChunks := by
    rcases h.total with htotal | hempty
    · rw [if_neg (not_not_intro htotal)]
    · rw [hempty, ite_self]
  have hheld := h.chunks.insert hsize hj
  have hcomplete := card_eq_iff_complete hsize hcodes
  rw [parseQrCodeChunk_chunkCode hsize hj h.active, hkept, collected, hheld.length]
  by_cases hall : Complete base64 data (codes ++ [chunkCode base64 data j])
  · rw [if_pos (hcomplete.mpr hall), if_pos hall, hheld.assembled_eq hsize hall, hextract]
    exact ⟨⟨rfl, rfl⟩, rfl, rfl⟩
  · rw [if_neg (mt hcomplete.mp hall), if_neg hall]
    exact ⟨⟨rfl, rfl⟩, rfl, rfl, .inl rfl, hheld, rfl⟩

theorem Complete.of_prefix {more : List (List Char)} (h : Complete base64 data codes) : Complete base64 data (codes ++ more) :=
  fun code hcode => List.mem_append_left more (h code hcode)

theorem not_complete_nil (hdata : data ≠ []) (hsize : data.length ≤ 255 * 850) : ¬Complete base64 data [] := by
  intro hall
  have hcard := (card_eq_iff_complete hsize (List.forall_mem_nil _)).mpr hall
  exact (chunkTotal_pos hdata).ne hcard

theorem parseQrCodeChunk_of_finished {s : QrState} (h : s.isQrCodeProcessed = false) (code : List Char) :
    parseQrCodeChunk base64 extractConfigFromQr s code =
      ⟨s, ⟨false, none, s.receivedQrCodeChunksCount, s.totalQrCodeChunksCount⟩, []⟩ := by
  rw [parseQrCodeChunk, h]
  rfl

theorem scanned_state (hdata : data ≠ []) (hsize : data.length ≤ 255 * 850) {config : Config}
    (hextract : extractConfigFromQr data = .ok config) (s : QrState)
    (hcodes : ∀ c ∈ codes, c ∈ generateQrCodeImageSeries base64 data) :
    if Complete base64 data codes then
      (scanned base64 extractConfigFromQr s codes).isQrCodeProcessed = false ∧
        (scanned base64 extractConfigFromQr s codes).receivedQrCodeChunksCount = codes.toFinset.card
    else Collecting base64 data codes (scanned base64 extractConfigFromQr s codes) := by
  induction codes using List.reverseRecOn with
  | nil =>
    rw [if_neg (not_complete_nil hdata hsize)]
    exact collecting_nil s
  | append_singleton codes code ih =>
    have hpast := ih fun c hc => hcodes c (List.mem_append_left _ hc)
    have hscan : scanned base64 extractConfigFromQr s (codes ++ [code]) =
        (parseQrCodeChunk base64 extractConfigFromQr (scanned base64 extractConfigFromQr s codes) code).state := by
      rw [scanned, List.foldl_append]
      rfl
    rw [hscan]
    by_cases hbefore : Complete base64 data codes
    · rw [if_pos hbefore] at hpast
      have hseen : code ∈ codes := hbefore code (hcodes code (List.mem_append_right _ (List.mem_singleton_self _)))
      rw [if_pos hbefore.of_prefix, parseQrCodeChunk_of_finished hpast.1, toFinset_concat,
        Finset.insert_eq_of_mem (List.mem_toFinset.mpr hseen)]
      exact hpast
    · rw [if_neg hbefore] at hpast
      obtain ⟨⟨hreceived, -⟩, hstep⟩ := hpast.step hsize hextract hcodes
      by_cases hall : Complete base64 data (codes ++ [code])
      · rw [if_pos hall] at hstep ⊢
        exact ⟨hstep.2, hreceived⟩
      · rw [if_neg hall] at hstep ⊢
        exact hstep.2

/-- However the codes of a series are scanned, the data is handed over when the last distinct one arrives, at no other
time, and each call counts the distinct ones so far. -/
theorem parseQrCodeChunk_reassembles (base64 : Base64) (s : QrState) (hdata : data ≠ [])
    (hsize : data.length ≤ 255 * 850) {config : Config} (hextract : extractConfigFromQr data = .ok config)
    (codes : List (List Char)) (code : List Char)
    (hcodes : ∀ c ∈ codes ++ [code], c ∈ generateQrCodeImageSeries base64 data) :
    (parseQrCodeChunk base64 extractConfigFromQr (scanned base64 extractConfigFromQr s codes) code).extracted =
        (if Complete base64 data (codes ++ [code]) ∧ ¬Complete base64 data codes then [data] else []) ∧
      (parseQrCodeChunk base64 extractConfigFromQr (scanned base64 extractConfigFromQr s codes)
        code).parseResult.chunksReceived = (codes ++ [code]).toFinset.card := by
  have hpast := scanned_state hdata hsize hextract s fun c hc => hcodes c (List.mem_append_left _ hc)
  by_cases hbefore : Complete base64 data codes
  · rw [if_pos hbefore] at hpast
    have hseen : code ∈ codes := hbefore code (hcodes code (List.mem_append_right _ (List.mem_singleton_self _)))
    rw [parseQrCodeChunk_of_finished hpast.1, if_neg fun h => h.2 hbefore, toFinset_concat,
      Finset.insert_eq_of_mem (List.mem_toFinset.mpr hseen)]
    exact ⟨rfl, hpast.2⟩
  · rw [if_neg hbefore] at hpast
    obtain ⟨⟨-, hreceived⟩, hstep⟩ := hpast.step hsize hextract hcodes
    by_cases hall : Complete base64 data (codes ++ [code])
    · rw [if_pos hall] at hstep
      rw [if_pos ⟨hall, hbefore⟩]
      exact ⟨hstep.1, hreceived⟩
    · rw [if_neg hall] at hstep
      rw [if_neg fun h => hall h.1]
      exact ⟨hstep.1, hreceived⟩

def hexCodec : Base64 := ⟨Hex.encode, fun text => (Hex.decode text).getD [], fun bytes => by rw [Hex.decode_encode]; rfl⟩

def longData : List UInt8 := List.replicate 851 7

def acceptAll (bytes : List UInt8) : Except Unit (List UInt8) := .ok bytes

/-- The second chunk is scanned twice, then the first. -/
theorem parseQrCodeChunk_reassembles_two :
    generateQrCodeImageSeries hexCodec longData = [chunkCode hexCodec longData 0, chunkCode hexCodec longData 1] ∧
      (parseQrCodeChunk hexCodec acceptAll
        (scanned hexCodec acceptAll ⟨[], 0, 0, false⟩ [chunkCode hexCodec longData 1, chunkCode hexCodec longData 1])
        (chunkCode hexCodec longData 0)).extracted = [longData] := by
  have hlength : longData.length = 851 := List.length_replicate
  have htotal : chunkTotal longData = 2 := by rw [chunkTotal, hlength]
  have hsize : longData.length ≤ 255 * 850 := by rw [hlength]; decide
  have hseries : generateQrCodeImageSeries hexCodec longData =
      [chunkCode hexCodec longData 0, chunkCode hexCodec longData 1] := by
    rw [series_eq hexCodec (by omega), htotal]
    rfl
  refine ⟨hseries, ?_⟩
  have hdiffer : chunkCode hexCodec longData 0 ≠ chunkCode hexCodec longData 1 := fun h =>
    absurd (chunkCode_injective hsize (by omega) (by omega) h) (by decide)
  have haccept : acceptAll longData = .ok longData := rfl
  have hcodes : ∀ c ∈ [chunkCode hexCodec longData 1, chunkCode hexCodec longData 1] ++ [chunkCode hexCodec longData 0],
      c ∈ generateQrCodeImageSeries hexCodec longData := by
    rw [hseries]
    simp
  have hall : Complete hexCodec longData
      ([chunkCode hexCodec longData 1, chunkCode hexCodec longData 1] ++ [chunkCode hexCodec longData 0]) := by
    rw [Complete, hseries]
    simp
  have hbefore : ¬Complete hexCodec longData [chunkCode hexCodec longData 1, chunkCode hexCodec longData 1] := by
    rw [Complete, hseries]
    simp [hdiffer]
  have hne : longData ≠ [] := List.cons_ne_nil _ _
  rw [(parseQrCodeChunk_reassembles hexCodec _ hne hsize haccept _ _ hcodes).1, if_pos ⟨hall, hbefore⟩]

end Reassembly

end TunnelCore.Import
