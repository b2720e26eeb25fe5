import SmartGate.Admin.Handlers
import SmartGate.Lib.Base64

/-!
# PEM texts of public keys

However the base64 text of a key is cut into lines, and whatever marker lines stand around
and between them, the parser puts the text together again.  It takes the key from the last
32 of 44 bytes without looking at the first twelve, which name the algorithm.
-/

namespace SmartGate

/-! ## Lines -/

/-- A line without the carriage return that belongs to its line feed. -/
def stripCr (line : List Char) : List Char :=
  if line.getLast? = some '\r' then line.dropLast else line

theorem stripCr_concat (line : List Char) : stripCr (line ++ ['\r']) = line := by
  rw [stripCr, List.getLast?_concat, if_pos rfl, List.dropLast_concat]

theorem stripCr_of_notMem {line : List Char} (h : '\r' ∉ line) : stripCr line = line := by
  rw [stripCr, if_neg fun hlast ↦ h (List.mem_of_getLast? hlast)]

theorem linesFrom_append {line : List Char} (hline : '\n' ∉ line) (cur rest : List Char) :
    linesFrom cur (line ++ '\n' :: rest) =
      stripCr (cur.reverse ++ line) :: linesFrom [] rest := by
  induction line generalizing cur with
  | nil =>
      rw [List.nil_append, List.append_nil]
      cases cur with
      | nil => rfl
      | cons c cur =>
          rw [List.reverse_cons]
          by_cases hc : c = '\r'
          · subst hc
            rw [stripCr_concat]
            rfl
          · rw [stripCr, List.getLast?_concat, if_neg fun h ↦ hc (Option.some.inj h)]
            simp [linesFrom, hc]
  | cons c line ih =>
      have hc : c ≠ '\n' := fun h ↦ hline (h ▸ List.mem_cons_self)
      rw [List.cons_append, linesFrom, ih fun h ↦ hline (List.mem_cons_of_mem c h),
        List.reverse_cons, List.append_assoc, List.singleton_append]
      exact hc

theorem linesFrom_of_notMem {line : List Char} (hline : '\n' ∉ line) (cur : List Char) :
    linesFrom cur line = if cur.reverse ++ line = [] then [] else [cur.reverse ++ line] := by
  induction line generalizing cur with
  | nil => cases cur <;> simp [linesFrom]
  | cons c line ih =>
      have hc : c ≠ '\n' := fun h ↦ hline (h ▸ List.mem_cons_self)
      rw [linesFrom, ih fun h ↦ hline (List.mem_cons_of_mem c h), List.reverse_cons,
        List.append_assoc, List.singleton_append]
      exact hc

/-! ## Layouts -/

inductive LineEnd where
  | lf | crlf
  deriving DecidableEq

def LineEnd.carriage : LineEnd → List Char
  | .lf => []
  | .crlf => ['\r']

/-- A piece of the base64 text, empty in a blank line, or a marker with its label. -/
inductive PemLine where
  | text (piece : List Char)
  | marker (label : List Char) (oneLine : '\n' ∉ label)

def PemLine.chars : PemLine → List Char
  | .text piece => piece
  | .marker label _ => "-----".toList ++ label

def PemLine.piece : PemLine → List Char
  | .text piece => piece
  | .marker _ _ => []

/-- Lines with their ends, and what follows the last line end. -/
structure PemLayout where
  lines : List (PemLine × LineEnd)
  last : PemLine

def PemLayout.pieces (layout : PemLayout) : List Char :=
  layout.lines.flatMap (fun line ↦ line.1.piece) ++ layout.last.piece

def PemLayout.render (layout : PemLayout) : String :=
  String.ofList (layout.lines.flatMap (fun line ↦ line.1.chars ++ line.2.carriage ++ ['\n']) ++
    layout.last.chars)

/-! ## What the parser keeps of a line -/

def keptOf (line : List Char) : List Char :=
  if "-----".toList.isPrefixOf line then [] else line

theorem flatten_filter_markers (ls : List (List Char)) :
    (ls.filter fun line ↦ !"-----".toList.isPrefixOf line).flatten = ls.flatMap keptOf := by
  induction ls with
  | nil => rfl
  | cons line ls ih =>
      rw [List.flatMap_cons, ← ih, keptOf]
      cases hmarker : "-----".toList.isPrefixOf line with
      | false => rw [List.filter_cons_of_pos (by rw [hmarker]; rfl), List.flatten_cons]; rfl
      | true => rw [List.filter_cons_of_neg (by rw [hmarker]; decide)]; rfl

/-- The characters of a base64 text. -/
def Base64Text (text : List Char) : Prop := ∀ c ∈ text, c ∈ '=' :: Base64.alphabet

theorem Base64Text.notMem {text : List Char} (h : Base64Text text) {c : Char}
    (hc : c ∉ '=' :: Base64.alphabet) : c ∉ text := fun hmem ↦ hc (h c hmem)

theorem keptOf_text {piece : List Char} (h : Base64Text piece) : keptOf piece = piece := by
  rw [keptOf, if_neg]
  intro hmarker
  obtain ⟨rest, rfl⟩ := List.isPrefixOf_iff_prefix.mp hmarker
  exact h.notMem (by decide) (List.mem_append_left rest (List.mem_cons_self : '-' ∈ _))

theorem prefix_stripCr (label : List Char) :
    "-----".toList <+: stripCr ("-----".toList ++ label) := by
  rw [stripCr]
  split_ifs with hlast
  · rcases List.eq_nil_or_concat' label with rfl | ⟨init, c, rfl⟩
    · exact absurd hlast (by decide)
    · rw [← List.append_assoc, List.dropLast_concat]
      exact List.prefix_append _ _
  · exact List.prefix_append _ _

theorem keptOf_marker (label : List Char) : keptOf (stripCr ("-----".toList ++ label)) = [] := by
  rw [keptOf, if_pos (List.isPrefixOf_iff_prefix.mpr (prefix_stripCr label))]

theorem PemLine.newline_notMem {line : PemLine} (h : Base64Text line.piece) :
    '\n' ∉ line.chars := by
  cases line with
  | text piece => exact h.notMem (by decide)
  | marker label oneLine =>
      intro hmem
      rcases List.mem_append.mp hmem with hdash | hlabel
      · exact absurd hdash (by decide)
      · exact oneLine hlabel

theorem PemLine.keptOf_terminated {line : PemLine} (h : Base64Text line.piece) (ending : LineEnd) :
    keptOf (stripCr (line.chars ++ ending.carriage)) = line.piece := by
  cases line with
  | text piece =>
      have hread : stripCr (piece ++ ending.carriage) = piece := by
        cases ending with
        | lf =>
            rw [LineEnd.carriage, List.append_nil]
            exact stripCr_of_notMem (h.notMem (by decide))
        | crlf => exact stripCr_concat piece
      rw [PemLine.chars, hread]
      exact keptOf_text h
  | marker label oneLine =>
      rw [PemLine.chars, List.append_assoc]
      exact keptOf_marker (label ++ ending.carriage)

theorem PemLine.keptOf_last {line : PemLine} (h : Base64Text line.piece) :
    (linesFrom [] line.chars).flatMap keptOf = line.piece := by
  rw [linesFrom_of_notMem (newline_notMem h), List.reverse_nil, List.nil_append]
  cases line with
  | text piece =>
      split_ifs with hempty
      · exact hempty.symm
      · rw [List.flatMap_singleton]
        exact keptOf_text h
  | marker label oneLine =>
      have hmarker : keptOf ("-----".toList ++ label) = [] :=
        if_pos (List.isPrefixOf_iff_prefix.mpr (List.prefix_append _ _))
      rw [if_neg (by simp [PemLine.chars]), List.flatMap_singleton]
      exact hmarker

theorem keptOf_lines (ls : List (PemLine × LineEnd)) {last : PemLine}
    (h : Base64Text (PemLayout.mk ls last).pieces) :
    (linesFrom [] (ls.flatMap (fun line ↦ line.1.chars ++ line.2.carriage ++ ['\n']) ++
      last.chars)).flatMap keptOf = (PemLayout.mk ls last).pieces := by
  induction ls with
  | nil => exact PemLine.keptOf_last h
  | cons line ls ih =>
      obtain ⟨line, ending⟩ := line
      have hpieces : (PemLayout.mk ((line, ending) :: ls) last).pieces =
          line.piece ++ (PemLayout.mk ls last).pieces := by
        simp [PemLayout.pieces]
      rw [hpieces] at h ⊢
      have hline : Base64Text line.piece := fun c hc ↦ h c (List.mem_append_left _ hc)
      have hrest := ih fun c hc ↦ h c (List.mem_append_right _ hc)
      have hone : '\n' ∉ line.chars ++ ending.carriage := by
        rw [List.mem_append, not_or]
        exact ⟨PemLine.newline_notMem hline, by cases ending <;> decide⟩
      rw [List.flatMap_cons, List.append_assoc, List.append_assoc (line.chars ++ _),
        List.singleton_append, linesFrom_append hone, List.flatMap_cons, hrest,
        List.reverse_nil, List.nil_append, PemLine.keptOf_terminated hline]

theorem pemPayload_render {layout : PemLayout} (h : Base64Text layout.pieces) :
    pemPayload layout.render = String.ofList layout.pieces := by
  have hlines : lines layout.render = linesFrom [] (layout.lines.flatMap
      (fun line ↦ line.1.chars ++ line.2.carriage ++ ['\n']) ++ layout.last.chars) :=
    congrArg (linesFrom []) String.toList_ofList
  rw [pemPayload, flatten_filter_markers, hlines, keptOf_lines layout.lines h]

/-! ## Parsing -/

variable {P : Primitives}

/-- The DER of a SubjectPublicKeyInfo for Ed25519, up to the key. -/
def ed25519Header : List UInt8 :=
  [0x30, 0x2a, 0x30, 0x05, 0x06, 0x03, 0x2b, 0x65, 0x70, 0x03, 0x21, 0x00]

theorem parsePublicKey_of_raw {pem : String} {raw : List UInt8}
    (hdecode : P.decodeBase64 (pemPayload pem) = .ok raw) (hraw : raw.length = 32)
    {key : P.VerifyingKey} (hkey : P.verifyingKeyFromBytes raw = .ok key) :
    parsePublicKey P pem = .ok key := by
  simp [parsePublicKey, hdecode, hraw, hkey]

theorem parsePublicKey_of_header {pem : String} {header raw : List UInt8}
    (hdecode : P.decodeBase64 (pemPayload pem) = .ok (header ++ raw)) (hheader : header.length = 12)
    (hraw : raw.length = 32) {key : P.VerifyingKey}
    (hkey : P.verifyingKeyFromBytes raw = .ok key) : parsePublicKey P pem = .ok key := by
  have hdrop : (header ++ raw).drop 12 = raw := by rw [← hheader, List.drop_left]
  simp only [parsePublicKey, hdecode, List.length_append, hheader, hraw, if_true, hdrop, ne_eq,
    not_true_eq_false, if_false, hkey]

/-- The key is the payload or what follows twelve bytes of it. -/
theorem parsePublicKey_eq_ok {pem : String} {key : P.VerifyingKey} :
    parsePublicKey P pem = .ok key ↔
      ∃ raw, raw.length = 32 ∧ P.verifyingKeyFromBytes raw = .ok key ∧
        (P.decodeBase64 (pemPayload pem) = .ok raw ∨
          ∃ header, header.length = 12 ∧
            P.decodeBase64 (pemPayload pem) = .ok (header ++ raw)) := by
  constructor
  · intro h
    cases hder : P.decodeBase64 (pemPayload pem) with
    | error e => simp [parsePublicKey, hder] at h
    | ok der =>
        by_cases hlong : der.length = 44
        · have hsplit : der.take 12 ++ der.drop 12 = der := List.take_append_drop 12 der
          have hheader : (der.take 12).length = 12 := by rw [List.length_take, hlong]; rfl
          have hraw : (der.drop 12).length = 32 := by rw [List.length_drop, hlong]
          cases hkey : P.verifyingKeyFromBytes (der.drop 12) with
          | error e => simp [parsePublicKey, hder, hlong, hkey] at h
          | ok key' =>
              have hparsed := parsePublicKey_of_header (hsplit.symm ▸ hder) hheader hraw hkey
              obtain rfl : key' = key := Except.ok.inj (hparsed.symm.trans h)
              exact ⟨der.drop 12, hraw, hkey, Or.inr ⟨der.take 12, hheader, by rw [hsplit]⟩⟩
        · by_cases hshort : der.length = 32
          · cases hkey : P.verifyingKeyFromBytes der with
            | error e => simp [parsePublicKey, hder, hshort, hkey] at h
            | ok key' =>
                have hparsed := parsePublicKey_of_raw hder hshort hkey
                obtain rfl : key' = key := Except.ok.inj (hparsed.symm.trans h)
                exact ⟨der, hshort, hkey, Or.inl rfl⟩
          · simp [parsePublicKey, hder, hlong, hshort] at h
  · rintro ⟨raw, hraw, hkey, hdecode | ⟨header, hheader, hdecode⟩⟩
    · exact parsePublicKey_of_raw hdecode hraw hkey
    · exact parsePublicKey_of_header hdecode hheader hraw hkey

/-! ## Every layout of a key is read back -/

/-- The decoder inverts the encoder. -/
def Primitives.DecodesBase64 (P : Primitives) : Prop :=
  ∀ bytes, P.decodeBase64 (String.ofList (Base64.encode bytes)) = .ok bytes

theorem parse_undoes_layout (hbase64 : P.DecodesBase64) {raw : List UInt8} {key : P.VerifyingKey}
    (hraw : raw.length = 32) (hkey : P.verifyingKeyFromBytes raw = .ok key)
    {payload : List UInt8} (hpayload : payload = raw ∨ payload = ed25519Header ++ raw)
    {layout : PemLayout} (hcut : layout.pieces = Base64.encode payload) :
    parsePublicKey P layout.render = .ok key := by
  have htext : Base64Text layout.pieces := by
    intro c hc
    rw [hcut] at hc
    exact Base64.mem_of_mem_encode hc
  have hdecode : P.decodeBase64 (pemPayload layout.render) = .ok payload := by
    rw [pemPayload_render htext, hcut]
    exact hbase64 payload
  rcases hpayload with rfl | rfl
  · exact parsePublicKey_of_raw hdecode hraw hkey
  · exact parsePublicKey_of_header hdecode rfl hraw hkey

/-- The sample primitives with a decoder for every text. -/
def Primitives.decoding : Primitives :=
  { Primitives.sample with
    decodeBase64 := fun text ↦
      match Base64.decode text.toList with
      | some bytes => .ok bytes
      | none => .error "Invalid padding" }

theorem Primitives.decodesBase64_decoding : Primitives.decoding.DecodesBase64 := by
  intro bytes
  have hdecode : Base64.decode (String.ofList (Base64.encode bytes)).toList = some bytes := by
    rw [String.toList_ofList, Base64.decode_encode]
  simp only [Primitives.decoding, hdecode]

/-- A key in two pieces, with a blank line between them and no line end after the last
marker. -/
def sampleLayout : PemLayout where
  lines :=
    [(.marker "BEGIN PUBLIC KEY-----".toList (by decide), .crlf),
      (.text ((Base64.encode samplePublicKeyDer).take 7), .lf),
      (.text [], .crlf),
      (.text ((Base64.encode samplePublicKeyDer).drop 7), .crlf)]
  last := .marker "END PUBLIC KEY-----".toList (by decide)

theorem parse_undoes_sample_layout :
    parsePublicKey .decoding sampleLayout.render = .ok (samplePublicKeyDer.drop 12) := by
  have hkey : Primitives.decoding.verifyingKeyFromBytes (samplePublicKeyDer.drop 12) =
      .ok (samplePublicKeyDer.drop 12) := rfl
  have hpayload : samplePublicKeyDer = ed25519Header ++ samplePublicKeyDer.drop 12 := by decide
  have hcut : sampleLayout.pieces = Base64.encode samplePublicKeyDer := by decide +kernel
  exact parse_undoes_layout Primitives.decodesBase64_decoding (by decide) hkey (Or.inr hpayload)
    hcut

/-! ## Keys of other algorithms -/

/-- The payload is the key, alone or after the header of Ed25519. -/
def CarriesEd25519 (P : Primitives) (pem : String) (key : P.VerifyingKey) : Prop :=
  ∃ raw, raw.length = 32 ∧ P.verifyingKeyFromBytes raw = .ok key ∧
    (P.decodeBase64 (pemPayload pem) = .ok raw ∨
      P.decodeBase64 (pemPayload pem) = .ok (ed25519Header ++ raw))

/-- The payload is twelve bytes that are not the header of Ed25519, and 32 bytes that would
do as an Ed25519 key. -/
def CarriesForeignKey (P : Primitives) (pem : String) : Prop :=
  ∃ header raw key, header.length = 12 ∧ header ≠ ed25519Header ∧ raw.length = 32 ∧
    P.verifyingKeyFromBytes raw = .ok key ∧ P.decodeBase64 (pemPayload pem) = .ok (header ++ raw)

theorem carriesEd25519_of_parse {pem : String} (hpem : ¬ CarriesForeignKey P pem)
    {key : P.VerifyingKey} (h : parsePublicKey P pem = .ok key) : CarriesEd25519 P pem key := by
  obtain ⟨raw, hraw, hkey, hdecode | ⟨header, hheader, hdecode⟩⟩ := parsePublicKey_eq_ok.mp h
  · exact ⟨raw, hraw, hkey, Or.inl hdecode⟩
  · by_cases heq : header = ed25519Header
    · exact ⟨raw, hraw, hkey, Or.inr (heq ▸ hdecode)⟩
    · exact absurd ⟨header, raw, key, hheader, heq, hraw, hkey, hdecode⟩ hpem

theorem not_carriesEd25519_of_foreign {pem : String} (hpem : CarriesForeignKey P pem)
    (key : P.VerifyingKey) : ¬ CarriesEd25519 P pem key := by
  obtain ⟨header, raw, _, hheader, hne, hraw, _, hdecode⟩ := hpem
  rintro ⟨raw', hraw', _, hdecode' | hdecode'⟩
  · have heq : header ++ raw = raw' := Except.ok.inj (hdecode.symm.trans hdecode')
    have hlength := congrArg List.length heq
    rw [List.length_append] at hlength
    omega
  · have heq : header ++ raw = ed25519Header ++ raw' :=
      Except.ok.inj (hdecode.symm.trans hdecode')
    exact hne (List.append_inj_left heq (hheader.trans rfl))

theorem only_ed25519_accepted_iff (P : Primitives) (pem : String) :
    ((∀ key, parsePublicKey P pem = .ok key → CarriesEd25519 P pem key) ∧
      ∀ (ctx : AdminContext) (sa : ServiceAccountId) (body : RegisterKeyRequest) (id : KeyId)
        (now : ℕ) (s : AppState) (answer : ServiceAccountKey × AppState),
        body.publicKeyPem = pem → registerKey P ctx sa body id now s = .ok answer →
          ∃ key, CarriesEd25519 P pem key) ↔ ¬ CarriesForeignKey P pem := by
  constructor
  · rintro ⟨hparse, _⟩ hpem
    have ⟨header, raw, key, hheader, _, hraw, hkey, hdecode⟩ := hpem
    exact not_carriesEd25519_of_foreign hpem key
      (hparse key (parsePublicKey_of_header hdecode hheader hraw hkey))
  · intro hpem
    refine ⟨fun key ↦ carriesEd25519_of_parse hpem, ?_⟩
    rintro ctx sa body id now s ⟨record, s'⟩ rfl hregister
    obtain ⟨key, hparse, _⟩ := registerKey_executed hregister
    exact ⟨key, carriesEd25519_of_parse hpem hparse⟩

/-- The header of a SubjectPublicKeyInfo for X25519, a key agreement. -/
def x25519Header : List UInt8 :=
  [0x30, 0x2a, 0x30, 0x05, 0x06, 0x03, 0x2b, 0x65, 0x6e, 0x03, 0x21, 0x00]

def x25519Pem : String :=
  "-----BEGIN PUBLIC KEY-----\nMCowBQYDK2VuAyEA11qYAYKxCrfVS/7TyWQHOg7hcvPapiMlrwIaaPcHURo=" ++
    "\n-----END PUBLIC KEY-----\n"

/-- A key that is declared to be for X25519 is registered as an Ed25519 key. -/
theorem x25519_key_registered :
    CarriesForeignKey .decoding x25519Pem ∧
      parsePublicKey .decoding x25519Pem = .ok (samplePublicKeyDer.drop 12) ∧
      ∃ s key s', Transition.run (gatewayStep .decoding) .initial bindSamplePolicy = some s ∧
        registerKey .decoding sampleAdmin ⟨⟨2⟩⟩ ⟨"batch-key", x25519Pem, none⟩ ⟨⟨5⟩⟩ 4 s =
          .ok (key, s') ∧ key.algorithm = "ed25519" := by
  have hdecode : Primitives.decoding.decodeBase64 (pemPayload x25519Pem) =
      .ok (x25519Header ++ samplePublicKeyDer.drop 12) :=
    eq_ok_of_toOption (by decide +kernel)
  have hkey : Primitives.decoding.verifyingKeyFromBytes (samplePublicKeyDer.drop 12) =
      .ok (samplePublicKeyDer.drop 12) := rfl
  have hregister : ((Transition.run (gatewayStep .decoding) .initial bindSamplePolicy).bind
      fun s ↦ (registerKey .decoding sampleAdmin ⟨⟨2⟩⟩ ⟨"batch-key", x25519Pem, none⟩ ⟨⟨5⟩⟩ 4
        s).toOption.map fun answer ↦ answer.1.algorithm) = some "ed25519" := by decide +kernel
  obtain ⟨s, hs, hanswer⟩ := Option.bind_eq_some_iff.mp hregister
  obtain ⟨⟨key, s'⟩, hanswer, halgorithm⟩ := Option.map_eq_some_iff.mp hanswer
  exact ⟨⟨x25519Header, _, _, rfl, by decide, by decide, hkey, hdecode⟩,
    parsePublicKey_of_header hdecode rfl (by decide) hkey,
    s, key, s', hs, eq_ok_of_toOption hanswer, halgorithm⟩

end SmartGate
