import RangeFetch.Proofs.Source.Memory
import RangeFetch.Source.StoreHistory

namespace RangeFetch.MemoryStore

open Faults (Switch)

/-- Contents of one hash are the same. -/
def Unambiguous (contents : List Bytes) : Prop :=
  ∀ a ∈ contents, ∀ b ∈ contents,
    (FileIdentity.ofContent a).hash = (FileIdentity.ofContent b).hash → a = b

/-- A content behind its hash. -/
def keyed (data : Bytes) : String × Bytes := ((FileIdentity.ofContent data).hash, data)

/-- The contents as a store holds them, the last one first. -/
def shelved (contents : List Bytes) : List (String × Bytes) := (contents.map keyed).reverse

variable {m : MemoryStore} {contents : List Bytes} {hash : String} {data : Bytes}

theorem lookup_shelved_isSome :
    ((shelved contents).lookup hash).isSome = true ↔
      ∃ data ∈ contents, (FileIdentity.ofContent data).hash = hash := by
  rw [List.lookup_isSome_iff]
  constructor
  · rintro ⟨entry, mem, same⟩
    obtain ⟨data, held, rfl⟩ := List.mem_map.mp (List.mem_reverse.mp mem)
    exact ⟨data, held, (beq_iff_eq.mp same).symm⟩
  · rintro ⟨data, held, rfl⟩
    exact ⟨keyed data, List.mem_reverse.mpr (List.mem_map_of_mem held), beq_self_eq_true _⟩

theorem of_lookup_shelved (found : (shelved contents).lookup hash = some data) :
    data ∈ contents ∧ (FileIdentity.ofContent data).hash = hash := by
  obtain ⟨before, after, split, -⟩ := List.lookup_eq_some_iff.mp found
  have mem : (hash, data) ∈ shelved contents := split ▸ List.mem_append_right _ List.mem_cons_self
  obtain ⟨other, held, same⟩ := List.mem_map.mp (List.mem_reverse.mp mem)
  obtain ⟨rfl, rfl⟩ := Prod.mk.inj same
  exact ⟨held, rfl⟩

/-- Where a hash tells the content, a store finds exactly what was put in. -/
theorem lookup_shelved_iff (unique : Unambiguous contents) :
    (shelved contents).lookup hash = some data ↔
      data ∈ contents ∧ (FileIdentity.ofContent data).hash = hash := by
  refine ⟨of_lookup_shelved, fun ⟨held, names⟩ => ?_⟩
  have there : ((shelved contents).lookup hash).isSome = true :=
    lookup_shelved_isSome.mpr ⟨data, held, names⟩
  obtain ⟨other, found⟩ := Option.isSome_iff_exists.mp there
  -- the store may hold the hash more than once; what it finds first is the same content
  obtain ⟨held', names'⟩ := of_lookup_shelved found
  rw [found, unique other held' data held (names'.trans names.symm)]

theorem resolve_of_shelved (holds : m.contents = shelved contents) (id : FileIdentity) :
    m.resolve id =
      if ∃ data ∈ contents, (FileIdentity.ofContent data).hash = id.hash then
        .ok (Limits.memoryScheme ++ id.hash)
      else .error (.unavailable id.hash) := by
  rw [resolve, content?, holds]
  by_cases held : ∃ data ∈ contents, (FileIdentity.ofContent data).hash = id.hash
  · obtain ⟨data, found⟩ := Option.isSome_iff_exists.mp (lookup_shelved_isSome.mpr held)
    rw [found, if_pos held]
  · have absent : (shelved contents).lookup id.hash = none := by
      rwa [← Option.not_isSome_iff_eq_none, lookup_shelved_isSome]
    rw [absent, if_neg held]

theorem insertedBy_cons (x : Operation) (xs : List Operation) :
    insertedBy (x :: xs) = insertedBy [x] ++ insertedBy xs :=
  List.filterMap_append (l := [x])

theorem switchedBy_cons (x : Operation) (xs : List Operation) :
    switchedBy (x :: xs) = switchedBy [x] ++ switchedBy xs :=
  List.filterMap_append (l := [x])

theorem perform_eq (holds : m.contents = shelved contents) (x : Operation) :
    (m.perform x).2 =
      ⟨m.deliverySize, shelved (contents ++ insertedBy [x]),
        (switchedBy [x]).foldl Faults.set m.faults, m.requests ++ requestsOf contents x⟩ := by
  have same : shelved (contents ++ []) = m.contents := by rw [List.append_nil, holds]
  cases x with
  | insert data =>
    have more : shelved (contents ++ [data]) = keyed data :: m.contents := by
      rw [shelved, List.map_append, List.reverse_append, holds]
      rfl
    change (m.insert data).2 = ⟨_, shelved (contents ++ [data]), m.faults, m.requests ++ []⟩
    rw [more, List.append_nil]
    rfl
  | set switch =>
    change m.set switch = ⟨_, shelved (contents ++ []), m.faults.set switch, m.requests ++ []⟩
    rw [same, List.append_nil]
    rfl
  | resolve id =>
    change m = ⟨_, shelved (contents ++ []), m.faults, m.requests ++ []⟩
    rw [same, List.append_nil]
  | openStream r =>
    change (m.openStream r).2 = ⟨_, shelved (contents ++ []), m.faults, m.requests ++ [r]⟩
    rw [same]
    rfl
  | openContent id start =>
    change (m.openContent id start).2 =
      ⟨_, shelved (contents ++ []), m.faults,
        m.requests ++ requestsOf contents (.openContent id start)⟩
    rw [same, openContent, resolve_of_shelved holds, requestsOf]
    by_cases held : ∃ data ∈ contents, (FileIdentity.ofContent data).hash = id.hash
    · rw [if_pos held, if_pos held]
      rfl
    · rw [if_neg held, if_neg held, List.append_nil]

theorem run_eq (holds : m.contents = shelved contents) (xs : List Operation) :
    m.run xs =
      ⟨m.deliverySize, shelved (contents ++ insertedBy xs),
        (switchedBy xs).foldl Faults.set m.faults, m.requests ++ requestedBy contents xs⟩ := by
  induction xs generalizing m contents with
  | nil =>
    change m = ⟨_, shelved (contents ++ []), m.faults, m.requests ++ []⟩
    rw [List.append_nil, List.append_nil, ← holds]
  | cons x rest ih =>
    rw [run, perform_eq holds x, ih rfl, insertedBy_cons x rest, switchedBy_cons x rest,
      requestedBy, List.foldl_append, List.append_assoc, List.append_assoc]

theorem run_empty (deliverySize : Nat) (xs : List Operation) :
    (empty deliverySize).run xs =
      ⟨deliverySize, shelved (insertedBy xs), (switchedBy xs).foldl Faults.set .none,
        requestedBy [] xs⟩ := by
  have bare : (empty deliverySize).contents = shelved [] := rfl
  exact run_eq bare xs

theorem foldl_set_eq_last {α : Type} (part : Faults → α) (position? : Switch → Option α)
    (sets : ∀ f switch, part (f.set switch) = (position? switch).getD (part f))
    (switches : List Switch) (f : Faults) :
    part (switches.foldl Faults.set f) = (switches.filterMap position?).getLastD (part f) := by
  induction switches generalizing f with
  | nil => rfl
  | cons switch rest ih =>
    rw [List.foldl_cons, ih, sets, List.filterMap_cons]
    cases position? switch with
    | none => rfl
    | some position => rw [List.getLastD_cons, Option.getD_some]

theorem faults_run (deliverySize : Nat) (xs : List Operation) :
    ((empty deliverySize).run xs).faults =
      { ignoreRanges := lastSet Switch.ignoreRanges? false xs
        stallAfter := lastSet Switch.stallAfter? none xs
        failAfter := lastSet Switch.failAfter? none xs
        failOpen := lastSet Switch.failOpen? none xs } := by
  rw [run_empty]
  refine Faults.ext ?_ ?_ ?_ ?_
  · exact foldl_set_eq_last _ Switch.ignoreRanges? (fun _ switch => by cases switch <;> rfl) _ _
  · exact foldl_set_eq_last _ Switch.stallAfter? (fun _ switch => by cases switch <;> rfl) _ _
  · exact foldl_set_eq_last _ Switch.failAfter? (fun _ switch => by cases switch <;> rfl) _ _
  · exact foldl_set_eq_last _ Switch.failOpen? (fun _ switch => by cases switch <;> rfl) _ _

/-- Only inserts and switches change more than the log, and these do not fail. -/
theorem perform_of_error {x : Operation} (fails : (m.perform x).1.error? ≠ none) :
    insertedBy [x] = [] ∧ switchedBy [x] = [] := by
  cases x with
  | insert data => exact absurd rfl fails
  | set switch => exact absurd rfl fails
  | resolve id => exact ⟨rfl, rfl⟩
  | openStream r => exact ⟨rfl, rfl⟩
  | openContent id start => exact ⟨rfl, rfl⟩

theorem openContent_of_held {id : FileIdentity} (held : m.content? id.hash = some data)
    (opens : m.faults.failOpen = none) (start : Nat) :
    let offset := if m.faults.ignoreRanges then 0 else start
    let url := Limits.memoryScheme ++ id.hash
    m.openContent id start =
      (if data.length < offset then .error (.rangeNotSatisfiable url offset)
        else .ok ⟨url, offset, m.faults.deliveries m.deliverySize (data.drop offset),
          m.faults.ending⟩,
        { m with requests := m.requests ++ [.starting url start] }) := by
  intro offset url
  have resolved : m.resolve id = .ok url := by rw [resolve, held]
  have asked : (Request.starting url start).url = url := rfl
  rw [openContent, resolved]
  dsimp only
  rw [openStream, answer_of_held asked held opens, asked, Request.start_starting]

theorem unlimited {f : Faults} (whole : f.failAfter = none) (flows : f.stallAfter = none)
    (deliverySize : Nat) (data : Bytes) :
    f.deliveries deliverySize data = (Bytes.cut deliverySize data).map .bytes ∧
      f.ending = .eof := by
  simp [Faults.deliveries, Faults.cutoff, Faults.ending, whole, flows]

/-- Whatever is done to a new store in which a hash tells the content: it resolves the hashes of
what was inserted, serves that as its switches stand, each as it was set last, and logs every
request in order. What fails changes nothing but the log. -/
theorem keeps_and_notes (deliverySize : Nat) (xs : List Operation)
    (unique : Unambiguous (insertedBy xs)) :
    let m := (empty deliverySize).run xs
    (∀ id : FileIdentity, m.resolve id =
      if ∃ data ∈ insertedBy xs, (FileIdentity.ofContent data).hash = id.hash then
        .ok (Limits.memoryScheme ++ id.hash)
      else .error (.unavailable id.hash)) ∧
    (∀ data ∈ insertedBy xs, m.content? (FileIdentity.ofContent data).hash = some data) ∧
    (∀ earlier later, xs = earlier ++ later → ∀ hash data,
      ((empty deliverySize).run earlier).content? hash = some data → m.content? hash = some data) ∧
    m.faults =
      { ignoreRanges := lastSet Switch.ignoreRanges? false xs
        stallAfter := lastSet Switch.stallAfter? none xs
        failAfter := lastSet Switch.failAfter? none xs
        failOpen := lastSet Switch.failOpen? none xs } ∧
    (∀ data ∈ insertedBy xs, ∀ (id : FileIdentity) (start : Nat),
      id.hash = (FileIdentity.ofContent data).hash → m.faults.failOpen = none →
      let offset := if m.faults.ignoreRanges then 0 else start
      let url := Limits.memoryScheme ++ id.hash
      let noted := { m with requests := m.requests ++ [.starting url start] }
      (data.length < offset → supplier.openContent m id start =
        some (.error (.rangeNotSatisfiable url offset), noted)) ∧
      (offset ≤ data.length → m.faults.failAfter = none → m.faults.stallAfter = none →
        ∃ pieces : List Bytes, pieces.flatten = data.drop offset ∧
          supplier.openContent m id start =
            some (.ok ⟨url, offset, pieces.map .bytes, .eof⟩, noted))) ∧
    m.requests = requestedBy [] xs ∧
    ∀ x, (m.perform x).1.error? ≠ none →
      (m.perform x).2 = { m with requests := m.requests ++ requestsOf (insertedBy xs) x } := by
  intro m
  have told := run_empty deliverySize xs
  have holds : m.contents = shelved (insertedBy xs) := congrArg MemoryStore.contents told
  have found (hash : String) (data : Bytes) : m.content? hash = some data ↔
      data ∈ insertedBy xs ∧ (FileIdentity.ofContent data).hash = hash := by
    rw [content?, holds]
    exact lookup_shelved_iff unique
  refine ⟨resolve_of_shelved holds, fun data held => (found _ data).mpr ⟨held, rfl⟩, ?_,
    faults_run deliverySize xs, ?_, congrArg MemoryStore.requests told, ?_⟩
  · intro earlier later split hash data before
    rw [content?, run_empty deliverySize earlier] at before
    obtain ⟨held, names⟩ := of_lookup_shelved before
    refine (found hash data).mpr ⟨?_, names⟩
    rw [split, insertedBy, List.filterMap_append]
    exact List.mem_append_left _ held
  · intro data held id start names opens offset url noted
    have here : m.content? id.hash = some data := (found _ data).mpr ⟨held, names.symm⟩
    have opened := openContent_of_held here opens start
    refine ⟨fun behind => ?_, fun within whole flows => ?_⟩
    · rw [supplier_openContent, opened, if_pos behind]
    · obtain ⟨pieces, ending⟩ := unlimited whole flows m.deliverySize (data.drop offset)
      refine ⟨_, Bytes.flatten_cut m.deliverySize (data.drop offset), ?_⟩
      rw [supplier_openContent, opened, if_neg (Nat.not_lt.mpr within), pieces, ending]
  · intro x fails
    obtain ⟨noInsert, noSwitch⟩ := perform_of_error fails
    rw [perform_eq holds x, noInsert, noSwitch, List.append_nil, ← holds]
    rfl

/-- Two contents, one of them inserted twice. It is asked for before it is there; then, from behind
its end, while ranges are ignored and a limit is set no more; and last with ranges again, from its
last byte on and from behind its end. -/
theorem two_contents_kept :
    let first := FileIdentity.ofContent [1, 2, 3]
    let second := FileIdentity.ofContent [4]
    let xs : List Operation :=
      [.openContent first 1, .insert [1, 2, 3], .insert [4], .insert [1, 2, 3],
        .set (.ignoreRanges true), .set (.failAfter (some 1)), .openContent second 0,
        .set (.failAfter none)]
    let ys : List Operation := xs ++ [.set (.ignoreRanges false)]
    let m := (empty 2).run xs
    let m' := (empty 2).run ys
    let url := Limits.memoryScheme ++ first.hash
    Unambiguous (insertedBy ys) ∧ [1, 2, 3] ∈ insertedBy ys ∧
      m'.content? first.hash = some [1, 2, 3] ∧
      m'.requests = [⟨Limits.memoryScheme ++ second.hash, none⟩] ∧
      (∃ pieces : List Bytes, pieces.flatten = [1, 2, 3] ∧
        ∃ noted, supplier.openContent m first 4 =
          some (.ok ⟨url, 0, pieces.map .bytes, .eof⟩, noted)) ∧
      (∃ noted, supplier.openContent m' first 4 =
        some (.error (.rangeNotSatisfiable url 4), noted)) ∧
      ∃ pieces : List Bytes, pieces.flatten = [3] ∧
        ∃ noted, supplier.openContent m' first 2 =
          some (.ok ⟨url, 2, pieces.map .bytes, .eof⟩, noted) := by
  intro first second xs ys m m' url
  have unique : Unambiguous (insertedBy ys) := by
    have apart : ∀ a ∈ insertedBy ys, ∀ b ∈ insertedBy ys,
      (FileIdentity.ofContent a).hash = (FileIdentity.ofContent b).hash → a = b := by decide +kernel
    exact apart
  have inserted : [1, 2, 3] ∈ insertedBy ys := List.mem_cons_self
  have log : requestedBy [] ys = [⟨Limits.memoryScheme ++ second.hash, none⟩] := by decide +kernel
  obtain ⟨-, -, -, ignoring, anywhere, -⟩ := keeps_and_notes 2 xs unique
  obtain ⟨-, held, -, ranged, opened, noted, -⟩ := keeps_and_notes 2 ys unique
  obtain ⟨-, whole⟩ := anywhere [1, 2, 3] inserted first 4 rfl (by rw [ignoring]; rfl)
  obtain ⟨behind, -⟩ := opened [1, 2, 3] inserted first 4 rfl (by rw [ranged]; rfl)
  obtain ⟨-, within⟩ := opened [1, 2, 3] inserted first 2 rfl (by rw [ranged]; rfl)
  rw [ignoring] at whole
  rw [ranged] at behind within
  obtain ⟨all, joined, opens⟩ := whole (by decide) rfl rfl
  obtain ⟨last, joined', opens'⟩ := within (by decide) rfl rfl
  exact ⟨unique, inserted, held _ inserted, noted.trans log, ⟨all, joined, _, opens⟩,
    ⟨_, behind (by decide)⟩, last, joined', _, opens'⟩

end RangeFetch.MemoryStore
