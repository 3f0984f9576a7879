import NexGo.Stream.ReadTypes

/-!
# Structures, their parents, and lists of them (`stream_in.go`)

`StreamReadStructure` (lines 912-956) reads a structure's parent first, as a structure of its own
whose result it drops; then, when the server asks for structure headers, a `uint8` version and a
`uint32` content length checked against `Remaining()`; then it sets the version and runs the
structure's `ExtractFromStream`. `StructureInterface` and the structures themselves are not in
the repository's files: a structure type is modelled by its `ExtractFromStream`, a reader given
the version set on the structure (`none` when no header was read), and by the readers of its
parents, nearest first. `StreamReadListStructure` (lines 958-981) reads a count and that many
structures, each from a fresh `Copy()` of the template, and passes an element's error on as it
is. `ReadVariant`, `ReadDataHolder` and `ReadListDataHolder` (lines 283-293, 305-314, 881-900)
wrap the `ExtractFromStream` of types that are not in the files either.

The content length is only checked: the content is read from just after the header, and the
stream stops wherever `ExtractFromStream` stops (`streamReadStructure_of_header`). A structure
below its parents, laid out root first, reads back (`streamReadStructure_of_unread`). On an
exhausted stream the root's missing version is reported under one parent prefix per parent
(`streamReadStructure_of_remaining_zero`). The list loop reads what the `ReadList*` loop reads
with the same element reader, and fails where it fails, without naming the index
(`readListValues_indexes_readStructures`); so lists of structures read back
(`streamReadListStructure_of_unread`).
-/

namespace NexGo
set_option autoImplicit false

namespace StreamIn

/-- The header `StreamReadStructure` reads when the server asks for one: the version, and the
content length, checked against `Remaining()` and not used after. -/
def readStructureHeader (server : ServerInterface) : EStateM String StreamIn (Option (BitVec 8)) :=
  if server.useStructureHeader then do
    let version ← readUInt8.adaptExcept ("Failed to read NEX Structure version. " ++ ·)
    let structureLength ← readUInt32LE.adaptExcept ("Failed to read NEX Structure content length. " ++ ·)
    if (← get).remaining < structureLength.toNat then
      throw "NEX Structure content length longer than data size"
    pure (some version)
  else pure none

/-- What `StreamReadStructure` does after the parents: the header, then `ExtractFromStream` from the
version it sets. -/
def readStructureContent {σ : Type} (server : ServerInterface)
    (extractFromStream : Option (BitVec 8) → EStateM String StreamIn σ) : EStateM String StreamIn σ := do
  let version ← readStructureHeader server
  (extractFromStream version).adaptExcept ("Failed to read structure from stream. " ++ ·)

/-- `StreamReadStructure` for a structure type with `ExtractFromStream` `extractFromStream` and
parent types `parents`, nearest first: the parent is read with its own parents and dropped. -/
def streamReadStructure {σ : Type} (server : ServerInterface) :
    List (Option (BitVec 8) → EStateM String StreamIn Unit) →
      (Option (BitVec 8) → EStateM String StreamIn σ) → EStateM String StreamIn σ
  | [], extractFromStream => readStructureContent server extractFromStream
  | parent :: ancestors, extractFromStream => do
    (streamReadStructure server ancestors parent).adaptExcept ("Failed to read structure parent. " ++ ·)
    readStructureContent server extractFromStream

/-- The loop of `StreamReadListStructure`: `count` structures, each from a fresh copy of the
template; an element's error comes back as it is. -/
def readStructures {σ : Type} (server : ServerInterface)
    (parents : List (Option (BitVec 8) → EStateM String StreamIn Unit))
    (extractFromStream : Option (BitVec 8) → EStateM String StreamIn σ) : Nat → EStateM String StreamIn (List σ)
  | 0 => pure []
  | count + 1 => do
    let extracted ← streamReadStructure server parents extractFromStream
    let structures ← readStructures server parents extractFromStream count
    pure (extracted :: structures)

/-- `StreamReadListStructure`: a `uint32` count, not checked against `Remaining()`, then the loop. -/
def streamReadListStructure {σ : Type} (server : ServerInterface)
    (parents : List (Option (BitVec 8) → EStateM String StreamIn Unit))
    (extractFromStream : Option (BitVec 8) → EStateM String StreamIn σ) : EStateM String StreamIn (List σ) := do
  let length ← readUInt32LE.adaptExcept ("Failed to read List<Structure> length. " ++ ·)
  readStructures server parents extractFromStream length.toNat

/-- `ReadVariant`: `Variant.ExtractFromStream` under a message of its own. -/
def readVariant {α : Type} (extractFromStream : EStateM String StreamIn α) : EStateM String StreamIn α :=
  extractFromStream.adaptExcept ("Failed to read Variant. " ++ ·)

/-- `ReadDataHolder`: `DataHolder.ExtractFromStream`, its errors under the source's `DateHolder`. -/
def readDataHolder {α : Type} (extractFromStream : EStateM String StreamIn α) : EStateM String StreamIn α :=
  extractFromStream.adaptExcept ("Failed to read DateHolder. " ++ ·)

/-- `ReadListDataHolder`: the loop of the other variable-width lists. -/
def readListDataHolder {α : Type} (extractFromStream : EStateM String StreamIn α) : EStateM String StreamIn (List α) :=
  readListOf "DataHolder" (readDataHolder extractFromStream)

/-! ## The header -/

/-- The version `SetStructureVersion` receives from a header carrying `version`. -/
def headerVersion (server : ServerInterface) (version : BitVec 8) : Option (BitVec 8) :=
  if server.useStructureHeader then some version else none

/-- The bytes of one level of a structure: under a header its version and content length, then its
content. -/
def structureBytes (server : ServerInterface) (version : BitVec 8) (content : List (BitVec 8)) : List (BitVec 8) :=
  (if server.useStructureHeader then version :: encodeLE 4 content.length else []) ++ content

variable {server : ServerInterface} {s : StreamIn} {rest : List (BitVec 8)}

/-- A header whose declared length fits in what is left moves past its five bytes, whatever that
length is. -/
theorem readStructureHeader_of_unread (hhdr : server.useStructureHeader = true) {version : BitVec 8}
    {length : Nat} (h : s.unread = version :: encodeLE 4 length ++ rest) (hlen : length ≤ rest.length)
    (hlen' : length < 2 ^ 32) :
    readStructureHeader server s = .ok (some version) { s with offset := s.offset + 5 } := by
  have hv : readUInt8 s = .ok version { s with offset := s.offset + 1 } :=
    (readPrimitive_of_unread (show s.unread = [version] ++ _ from h) rfl).trans (by rw [wordLE_byte]; rfl)
  have hl : readUInt32LE { s with offset := s.offset + 1 } =
      .ok (BitVec.ofNat 32 length) { s with offset := s.offset + 1 + 4 } :=
    (readPrimitive_of_unread (by rw [unread_advance, h]; rfl) (length_encodeLE 4 _)).trans
      (by rw [wordLE_encodeLE (by simpa using hlen')])
  have hrem : ({ s with offset := s.offset + 1 + 4 } : StreamIn).remaining = rest.length := by
    rw [remaining, Nat.add_assoc, unread_advance, h]
    simp
  simp only [readStructureHeader, hhdr, if_true, bind, EStateM.bind, EStateM.adaptExcept, hv, hl, get, getThe,
    MonadStateOf.get, EStateM.get, hrem, BitVec.toNat_ofNat, Nat.mod_eq_of_lt hlen', if_neg (Nat.not_lt.2 hlen),
    pure, EStateM.pure, Nat.add_assoc]

/-- The content after the header reads back, whether or not the server asks for headers. -/
theorem readStructureContent_of_unread {σ : Type} {extract : Option (BitVec 8) → EStateM String StreamIn σ}
    {version : BitVec 8} {content : List (BitVec 8)} {x : σ}
    (he : ReadsContent (extract (headerVersion server version)) content x) (hc : content.length < 2 ^ 32)
    (h : s.unread = structureBytes server version content ++ rest) :
    readStructureContent server extract s =
      .ok x { s with offset := s.offset + (structureBytes server version content).length } := by
  unfold structureBytes at h ⊢
  unfold headerVersion at he
  cases hhdr : server.useStructureHeader <;>
    simp only [hhdr, Bool.false_eq_true, if_false, if_true, List.nil_append] at h he ⊢
  case false =>
    simp only [readStructureContent, readStructureHeader, hhdr, Bool.false_eq_true, if_false, bind, EStateM.bind,
      pure, EStateM.pure, EStateM.adaptExcept, he s rest h]
  case true =>
    have hh := readStructureHeader_of_unread hhdr
      (show s.unread = version :: encodeLE 4 content.length ++ (content ++ rest) by simpa using h) (by simp) hc
    have hx := he { s with offset := s.offset + 5 } rest (by rw [unread_advance, h]; simp)
    simp only [readStructureContent, bind, EStateM.bind, hh, EStateM.adaptExcept, hx, List.length_append,
      List.length_cons, length_encodeLE]
    congr 2
    omega

/-- With no parents and a header, `StreamReadStructure` runs `ExtractFromStream` from just after the
header, however long the header says the content is: the stream stops wherever that reader stops. -/
theorem streamReadStructure_of_header (hhdr : server.useStructureHeader = true) {σ : Type}
    (extract : Option (BitVec 8) → EStateM String StreamIn σ) {version : BitVec 8} {length : Nat}
    (h : s.unread = version :: encodeLE 4 length ++ rest) (hlen : length ≤ rest.length) (hlen' : length < 2 ^ 32) :
    streamReadStructure server [] extract s =
      (extract (some version)).adaptExcept ("Failed to read structure from stream. " ++ ·)
        { s with offset := s.offset + 5 } := by
  simp only [streamReadStructure, readStructureContent, bind, EStateM.bind,
    readStructureHeader_of_unread hhdr h hlen hlen']

/-- A header claiming two bytes before a one-byte content: the structure stops after that byte. -/
example :
    streamReadStructure ⟨2, false, true⟩ [] (fun _ => readUInt8) (newStreamIn [3, 2, 0, 0, 0, 42, 43]) =
      .ok 42 ⟨[3, 2, 0, 0, 0, 42, 43], 6⟩ :=
  streamReadStructure_of_header rfl _ (show (newStreamIn _).unread = 3 :: encodeLE 4 2 ++ [42, 43] from rfl)
    (by decide) (by decide)

/-! ## Parents -/

/-- Each parent reads back the content of its level, from the version that level's header sets. -/
def ParentsReadBack (server : ServerInterface) :
    List (Option (BitVec 8) → EStateM String StreamIn Unit) → List (BitVec 8 × List (BitVec 8)) → Prop
  | [], [] => True
  | parent :: ancestors, (version, content) :: levels =>
    ReadsContent (parent (headerVersion server version)) content () ∧ content.length < 2 ^ 32 ∧
      ParentsReadBack server ancestors levels
  | _, _ => False

/-- The bytes of the parents' levels, nearest first in `levels`, laid out root first. -/
def parentBytes (server : ServerInterface) : List (BitVec 8 × List (BitVec 8)) → List (BitVec 8)
  | [] => []
  | (version, content) :: levels => parentBytes server levels ++ structureBytes server version content

/-- A structure below its parents reads back: each parent's level, root first, then its own. -/
theorem streamReadStructure_of_unread (server : ServerInterface) :
    ∀ {σ : Type} (parents : List (Option (BitVec 8) → EStateM String StreamIn Unit))
      (levels : List (BitVec 8 × List (BitVec 8))) {extract : Option (BitVec 8) → EStateM String StreamIn σ}
      {version : BitVec 8} {content : List (BitVec 8)} {x : σ} {s : StreamIn} {rest : List (BitVec 8)},
      ParentsReadBack server parents levels →
      ReadsContent (extract (headerVersion server version)) content x → content.length < 2 ^ 32 →
      s.unread = parentBytes server levels ++ structureBytes server version content ++ rest →
      streamReadStructure server parents extract s =
        .ok x { s with offset := s.offset + (parentBytes server levels ++ structureBytes server version content).length }
  | _, [], [], _, _, _, _, _, _, _, he, hc, h => readStructureContent_of_unread he hc (by simpa [parentBytes] using h)
  | _, parent :: ancestors, (v, c) :: levels, _, version, content, _, s, rest, ⟨hp, hpc, hps⟩, he, hc, h => by
    have hparent := streamReadStructure_of_unread server ancestors levels hps hp hpc
      (show _ = _ ++ _ ++ (structureBytes server version content ++ rest) by rw [h, parentBytes]; simp)
    have hself := readStructureContent_of_unread he hc
      (s := { s with offset := s.offset + (parentBytes server levels ++ structureBytes server v c).length })
      (show _ = _ ++ rest by rw [unread_advance, h, parentBytes, List.append_assoc, List.drop_left])
    simp only [streamReadStructure, bind, EStateM.bind, EStateM.adaptExcept, hparent, hself]
    simp [parentBytes, Nat.add_assoc]
  | _, [], _ :: _, _, _, _, _, _, _, hps, _, _, _ => hps.elim
  | _, _ :: _, [], _, _, _, _, _, _, hps, _, _, _ => hps.elim

/-- A one-byte structure below a parent with no content of its own, both under headers. -/
theorem streamReadStructure_below_empty_parent :
    streamReadStructure ⟨2, false, true⟩ [fun _ => pure ()] (fun _ => readUInt8)
        (newStreamIn [1, 0, 0, 0, 0, 3, 1, 0, 0, 0, 42]) =
      .ok 42 ⟨[1, 0, 0, 0, 0, 3, 1, 0, 0, 0, 42], 11⟩ :=
  streamReadStructure_of_unread ⟨2, false, true⟩ [fun _ => pure ()] [(1, [])] ⟨fun _ _ _ => rfl, by decide, trivial⟩
    (readUInt8_of_unread 42 trivial) (by decide) rfl

/-- On an exhausted stream the root's missing version comes back under one prefix per parent. -/
theorem streamReadStructure_of_remaining_zero (hhdr : server.useStructureHeader = true) :
    ∀ {σ : Type} (parents : List (Option (BitVec 8) → EStateM String StreamIn Unit))
      (extract : Option (BitVec 8) → EStateM String StreamIn σ) {s : StreamIn}, s.remaining = 0 →
      streamReadStructure server parents extract s =
        .error ((List.replicate parents.length "Failed to read structure parent. ").foldr (· ++ ·)
          "Failed to read NEX Structure version. Not enough data to read uint8") s
  | _, [], _, s, h => by
    simp [streamReadStructure, readStructureContent, readStructureHeader, hhdr, bind, EStateM.bind,
      EStateM.adaptExcept, readUInt8, readPrimitive_of_lt (show s.remaining < 1 by omega)]
  | _, parent :: ancestors, _, s, h => by
    simp [streamReadStructure, bind, EStateM.bind, EStateM.adaptExcept,
      streamReadStructure_of_remaining_zero hhdr ancestors parent h, List.replicate_succ]

theorem streamReadStructure_two_parents_empty :
    streamReadStructure ⟨2, false, true⟩ [fun _ => pure (), fun _ => pure ()] (fun _ => readUInt8) (newStreamIn []) =
      .error ("Failed to read structure parent. Failed to read structure parent. " ++
        "Failed to read NEX Structure version. Not enough data to read uint8") (newStreamIn []) :=
  streamReadStructure_of_remaining_zero rfl _ _ rfl

/-- A structure type without parents reads back its level whenever its `ExtractFromStream` reads
back the content, from whatever version the header sets. -/
theorem streamReadStructure_readsBack {σ β : Type} {extract : Option (BitVec 8) → EStateM String StreamIn σ}
    {enc : β → List (BitVec 8)} {dec : β → σ} {P : β → Prop}
    (he : ∀ version, ReadsBack (extract (headerVersion server version)) enc dec P) :
    ReadsBack (streamReadStructure server [] extract) (fun p : BitVec 8 × β => structureBytes server p.1 (enc p.2))
      (fun p => dec p.2) (fun p => P p.2 ∧ (enc p.2).length < 2 ^ 32) :=
  fun p hp _ _ h => readStructureContent_of_unread (he p.1 p.2 hp.1) hp.2 h

/-! ## Lists of structures -/

/-- A `ReadList*` loop's result from a bare one: the values as they are, an error under the index
it names. -/
def indexError {α : Type} (name : String) (index : Nat) :
    EStateM.Result String StreamIn α → EStateM.Result String StreamIn α
  | .ok xs s' => .ok xs s'
  | .error e s' => .error ("Failed to read List<" ++ name ++ "> value at index " ++ toString index ++ ". " ++ e) s'

/-- The loop of `StreamReadListStructure` reads what the `ReadList*` loop reads with the same element
reader and fails where it fails, but with the element's error bare where that loop names the
index. -/
theorem readListValues_indexes_readStructures {σ : Type} (name : String)
    (parents : List (Option (BitVec 8) → EStateM String StreamIn Unit))
    (extract : Option (BitVec 8) → EStateM String StreamIn σ) :
    ∀ (count i : Nat) (s : StreamIn), ∃ k, readListValues name (streamReadStructure server parents extract) count i s =
      indexError name (i + k) (readStructures server parents extract count s)
  | 0, _, _ => ⟨0, rfl⟩
  | count + 1, i, s => by
    cases hr : streamReadStructure server parents extract s with
    | error e s' =>
      exact ⟨0, by simp [readListValues, readStructures, bind, EStateM.bind, EStateM.adaptExcept, hr, indexError]⟩
    | ok x s' =>
      obtain ⟨k, hk⟩ := readListValues_indexes_readStructures name parents extract count (i + 1) s'
      refine ⟨k + 1, ?_⟩
      simp only [readListValues, readStructures, bind, EStateM.bind, EStateM.adaptExcept, hr, hk,
        show i + (k + 1) = i + 1 + k by omega]
      cases readStructures server parents extract count s' <;> rfl

/-- `StreamReadListStructure` reads back a count and that many structures. -/
theorem streamReadListStructure_of_unread {σ β : Type}
    {parents : List (Option (BitVec 8) → EStateM String StreamIn Unit)}
    {extract : Option (BitVec 8) → EStateM String StreamIn σ} {enc : β → List (BitVec 8)} {dec : β → σ}
    {P : β → Prop} (hr : ReadsBack (streamReadStructure server parents extract) enc dec P) (xs : List β)
    (hP : ∀ x ∈ xs, P x) (hn : xs.length < 2 ^ 32) (h : s.unread = encodeLE 4 xs.length ++ xs.flatMap enc ++ rest) :
    streamReadListStructure server parents extract s =
      .ok (xs.map dec) { s with offset := s.offset + 4 + (xs.flatMap enc).length } := by
  have hcount := readUInt32LE_of_unread hn (by rw [h, List.append_assoc])
  obtain ⟨k, hk⟩ := readListValues_indexes_readStructures "Structure" parents extract xs.length 0
    { s with offset := s.offset + 4 }
  rw [readListValues_of_unread hr xs 0 hP
    (by rw [unread_advance, h, List.append_assoc, List.drop_left' (length_encodeLE 4 _)])] at hk
  have hxs : readStructures server parents extract xs.length { s with offset := s.offset + 4 } =
      .ok (xs.map dec) { s with offset := s.offset + 4 + (xs.flatMap enc).length } := by
    revert hk
    cases readStructures server parents extract xs.length _ with
    | ok ys s' => intro hk; cases hk; rfl
    | error e s' => intro hk; cases hk
  simp only [streamReadListStructure, bind, EStateM.bind, EStateM.adaptExcept, hcount, BitVec.toNat_ofNat,
    Nat.mod_eq_of_lt hn, hxs]

/-- Two headerless one-byte structures read back as a list of two. -/
theorem streamReadListStructure_two_bytes :
    streamReadListStructure ⟨2, false, false⟩ [] (fun _ => readUInt8) (newStreamIn [2, 0, 0, 0, 5, 6]) =
      .ok [5, 6] ⟨[2, 0, 0, 0, 5, 6], 6⟩ :=
  streamReadListStructure_of_unread
    (@streamReadStructure_readsBack ⟨2, false, false⟩ _ _ _ (fun b => [b]) id (fun _ => True)
      fun _ => readUInt8_of_unread) [(0, 5), (0, 6)] (by decide) (by decide) rfl

/-- The loop of `StreamReadListStructure` fails at the first structure that does not read, with that
structure's own error and stream: unlike the `ReadList*` loop, it names no index. -/
theorem readStructures_error {σ β : Type} {parents : List (Option (BitVec 8) → EStateM String StreamIn Unit)}
    {extract : Option (BitVec 8) → EStateM String StreamIn σ} {enc : β → List (BitVec 8)} {dec : β → σ}
    {P : β → Prop} (hr : ReadsBack (streamReadStructure server parents extract) enc dec P) :
    ∀ (xs : List β) (m : Nat) {s s' : StreamIn} {rest : List (BitVec 8)} {msg : String}, (∀ x ∈ xs, P x) →
      s.unread = xs.flatMap enc ++ rest →
      streamReadStructure server parents extract { s with offset := s.offset + (xs.flatMap enc).length } =
        .error msg s' →
      readStructures server parents extract (xs.length + m + 1) s = .error msg s'
  | [], _, s, _, _, _, _, _, hfail => by
    simp only [List.flatMap_nil, List.length_nil, Nat.add_zero] at hfail
    simp [readStructures, bind, EStateM.bind, hfail]
  | x :: xs, m, s, s', rest, msg, hP, h, hfail => by
    have hx := hr x (hP x (List.mem_cons_self _ _)) s (xs.flatMap enc ++ rest) (by simpa using h)
    have hfail' : streamReadStructure server parents extract
        { s with offset := s.offset + (enc x).length + (xs.flatMap enc).length } = .error msg s' := by
      simpa [Nat.add_assoc] using hfail
    have hxs := readStructures_error hr xs m (fun y hy => hP y (List.mem_cons_of_mem _ hy))
      (by rw [unread_advance, h, List.flatMap_cons, List.append_assoc, List.drop_left]) hfail'
    rw [List.length_cons, Nat.add_right_comm xs.length 1 m, readStructures]
    simp only [bind, EStateM.bind, hx, hxs]

/-- Two structures announced, one byte left for them: the second's error comes back bare. -/
theorem readStructures_second_missing :
    readStructures ⟨2, false, false⟩ [] (fun _ => readUInt8) 2 ⟨[2, 0, 0, 0, 5], 4⟩ =
      .error "Failed to read structure from stream. Not enough data to read uint8" ⟨[2, 0, 0, 0, 5], 5⟩ :=
  readStructures_error
    (@streamReadStructure_readsBack ⟨2, false, false⟩ _ _ _ (fun b => [b]) id (fun _ => True)
      fun _ => readUInt8_of_unread) [(0, 5)] 0 (by decide) rfl rfl

end StreamIn

end NexGo
