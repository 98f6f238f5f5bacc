import RangeFetch.Proofs.Download.Service
import RangeFetch.Source.Memory

namespace RangeFetch

theorem Bytes.flatten_cut (size : Nat) (data : Bytes) : (Bytes.cut size data).flatten = data := by
  fun_induction Bytes.cut size data with
  | case1 => rfl
  | case2 b rest ih =>
    rw [List.flatten_cons, ih, List.cons_append, List.take_append_drop]

namespace MemoryStore

theorem hashOfUrl?_memoryScheme (hash : String) :
    hashOfUrl? (Limits.memoryScheme ++ hash) = some hash := by
  have url : (Limits.memoryScheme ++ hash).toList = Limits.memoryScheme.toList ++ hash.toList :=
    String.toList_append
  rw [hashOfUrl?, url, if_pos (by simp), ← String.length_toList, List.drop_left,
    String.ofList_toList]

theorem answer_of_held {m : MemoryStore} {r : Request} {hash : String} {data : Bytes}
    (names : r.url = Limits.memoryScheme ++ hash) (holds : m.content? hash = some data)
    (opens : m.faults.failOpen = none) :
    let start := if m.faults.ignoreRanges then 0 else r.start
    m.answer r =
      if data.length < start then .error (.rangeNotSatisfiable r.url start)
      else .ok ⟨r.url, start, m.faults.deliveries m.deliverySize (data.drop start),
        m.faults.ending⟩ := by
  have named : hashOfUrl? r.url = some hash := by
    rw [names, hashOfUrl?_memoryScheme]
  simp only [answer, opens, named, holds]

theorem supplier_serves (content : Bytes) (identity : FileIdentity) :
    supplier.Serves content identity fun m =>
      m.faults = .none ∧ m.content? identity.hash = some content := by
  intro m start ⟨faults, holds⟩ within
  have located : supplier.locate m identity start =
      (.ok (.starting (Limits.memoryScheme ++ identity.hash) start), m) := by
    simp [Supplier.locate, supplier, resolve, holds]
  have answer : m.answer (.starting (Limits.memoryScheme ++ identity.hash) start) =
      .ok ⟨Limits.memoryScheme ++ identity.hash, start,
        (Bytes.cut m.deliverySize (content.drop start)).map .bytes, .eof⟩ := by
    have url : (Request.starting (Limits.memoryScheme ++ identity.hash) start).url =
      Limits.memoryScheme ++ identity.hash := rfl
    rw [answer_of_held url holds (by rw [faults]; rfl)]
    simp only [faults, Faults.none, url, Request.start_starting, Bool.false_eq_true, if_false,
      if_neg (Nat.not_lt.mpr (Nat.le_of_lt within))]
    simp [Faults.deliveries, Faults.cutoff, Faults.ending]
  refine ⟨⟨Limits.memoryScheme ++ identity.hash, start,
      (Bytes.cut m.deliverySize (content.drop start)).map .bytes, .eof⟩,
    { m with
      requests := m.requests ++ [.starting (Limits.memoryScheme ++ identity.hash) start] },
    ?_, rfl, ⟨?_, ?_⟩, faults, holds⟩
  · rw [Supplier.openContent, located]
    simp only [supplier, openStream, answer]
  · intro item mem
    obtain ⟨piece, -, rfl⟩ := List.mem_map.mp mem
    rfl
  · rw [joinedBytes_map_bytes, Bytes.flatten_cut]

end MemoryStore

end RangeFetch
