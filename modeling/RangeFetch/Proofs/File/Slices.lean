import RangeFetch.File.Reading
import RangeFetch.Proofs.Download.Service
import RangeFetch.Proofs.File.Custody
import RangeFetch.Proofs.Source.Memory

namespace RangeFetch

theorem Downloader.Waiting.serve {ε : Type} {source : Supplier ε} {Ready : ε → Prop}
    {content : Bytes} {d : Downloader} {c : Chunk} {w : ε} (h : d.Waiting content c)
    (ready : Ready w) (serves : source.Serves content d.identity Ready) :
    ∃ d' w', d.serve source c.signal d.outstanding.length w =
        (some (c.served content).result, d', w') ∧
      d'.Rests content ∧ d'.identity = d.identity ∧ Ready w' := by
  obtain ⟨d', w', drive, rests, same, ready'⟩ := h.willServe ready serves
  refine ⟨d', w', ?_, rests, same, ready'⟩
  have one : d.outstanding.length = 1 := by
    rcases h.free with at_ | ⟨leftover, stream, at_⟩ <;>
      simp [outstanding, h.pending, at_, Phase.chunks]
  have found : Firing.result? c.signal [c.served content] = some (c.served content).result := by
    simp [Firing.result?, Chunk.served]
  rw [one, Downloader.serve]
  simp only [drive, found]

namespace StreamingFile

/-- A file from which the content can be read. -/
structure IsReady (content : Bytes) (f : StreamingFile) : Prop where
  released : f.released = false
  size : f.identity.size = content.length
  place : ∀ k, f.inUse = some k → k < f.downloaders.length
  current : ∀ d, f.current? = some d → d.Rests content ∧ d.identity = f.identity

variable {ε : Type} {source : Supplier ε} {Ready : ε → Prop} {content : Bytes} {f : StreamingFile}
  {c : Chunk} {w : ε}

theorem rests_start {identity : FileIdentity} (options : DownloadOptions)
    (size : identity.size = content.length) : (Downloader.start identity options).Rests content :=
  ⟨Downloader.sound_start identity options, size, rfl, trivial⟩

theorem IsReady.of_set {k : Nat} {d d' : Downloader} (released : f.released = false)
    (size : f.identity.size = content.length) (use : f.inUse = some k)
    (there : f.downloaders[k]? = some d) (rests : d'.Rests content)
    (same : d'.identity = f.identity) :
    IsReady content { f with downloaders := f.downloaders.set k d' } := by
  have short := (List.getElem?_eq_some_iff.mp there).1
  refine ⟨released, size, ?_, ?_⟩
  · intro j hj
    rw [use] at hj
    cases hj
    rw [List.length_set]
    exact short
  · intro b hb
    have latest : d' = b := by
      simpa [current?, use, List.getElem?_set_self short] using hb
    rw [← latest]
    exact ⟨rests, same⟩

theorem IsReady.renew (h : f.IsReady content) :
    ∃ k d, f.renew.inUse = some k ∧ f.renew.downloaders[k]? = some d ∧ d.isStopped = false ∧
      d.Rests content ∧ d.identity = f.identity ∧ k ∉ f.stale?.toList := by
  rcases f.renew_cases with ⟨k, d, use, there, running, ⟨current, none⟩ | ⟨rfl, rfl, stale⟩⟩
  · obtain ⟨rests, identity⟩ := h.current d current
    exact ⟨k, d, use, there, running, rests, identity, by simp [none]⟩
  · refine ⟨_, _, use, there, running, rests_start f.options h.size, rfl, ?_⟩
    -- the new downloader's place is none of those before
    intro mem
    have within := h.place _ (by simpa [stale] using mem)
    omega

theorem renew_same (f : StreamingFile) :
    f.renew.identity = f.identity ∧ f.renew.released = f.released := by
  unfold StreamingFile.renew
  split <;> exact ⟨rfl, rfl⟩

theorem IsReady.accept (h : f.IsReady content) (fresh : c.buffer = [])
    (within : c.offset < content.length) :
    ∃ k d, (f.accept c).1.inUse = some k ∧ (f.accept c).1.downloaders[k]? = some d ∧
      (f.accept c).2 = [] ∧ (f.accept c).1.released = f.released ∧
      (f.accept c).1.identity = f.identity ∧ d.identity = f.identity ∧
      d.Waiting content (c.clampTo content.length) := by
  obtain ⟨k, d, use, there, running, rests, identity, other⟩ := h.renew
  obtain ⟨d', took, same, waiting⟩ := rests.enqueue running fresh within
  have offer : f.renew.offer c =
      .ok ({ f.renew with downloaders := f.renew.downloaders.set k d' }, []) := by
    simp only [StreamingFile.offer, use, there, took]
  have accept : f.accept c = (StreamingFile.stopAll
      { f.renew with downloaders := f.renew.downloaders.set k d' } f.stale?.toList, []) := by
    simp only [StreamingFile.accept, offer]
  rw [accept]
  refine ⟨k, d', use, ?_, rfl, f.renew_same.2, f.renew_same.1, same.trans identity, waiting⟩
  rw [getElem?_stopAll, List.getElem?_set_self (List.getElem?_eq_some_iff.mp there).1,
    Option.map_some, if_neg other]

theorem served_read (fresh : c.buffer = []) {size : Nat} (limit : c.limit = readLimit c.offset size)
    (within : c.offset < content.length) (bound : content.length < Limits.offsetBound) :
    (c.clampTo content.length).served content =
      ⟨c.signal, .served ⟨c.offset, (content.drop c.offset).take size⟩⟩ := by
  -- what the clamp takes away is past the content, and so is what an offset cannot say
  have same : (content.drop c.offset).take ((c.clampTo content.length).limit - c.offset) =
      (content.drop c.offset).take size := by
    rw [List.take_eq_take_iff, Chunk.limit_clampTo, Chunk.cursor_of_fresh fresh, limit,
      List.length_drop, readLimit, Limits.maxOffset]
    omega
  rw [Chunk.served, Chunk.signal_clampTo, Chunk.offset_clampTo, same]

theorem le_readLimit {offset : Nat} (within : offset < Limits.offsetBound) (size : Nat) :
    offset ≤ readLimit offset size := by
  rw [readLimit, Limits.maxOffset]
  omega

theorem read_of_past {signal offset size : Nat} (released : f.released = false)
    (within : offset < Limits.offsetBound) (past : f.identity.size ≤ offset) :
    f.read source signal offset size w = (some (.ok []), f.countComplete, w) := by
  have request : Chunk.request signal offset (readLimit offset size) =
      .ok ⟨signal, offset, readLimit offset size, [], le_readLimit within size⟩ :=
    dif_pos (le_readLimit within size)
  simp [StreamingFile.read, enqueue, request, released, past, Chunk.complete, Firing.result?,
    Completion.answer]

theorem IsReady.read_of_within (h : f.IsReady content) (bound : content.length < Limits.offsetBound)
    (serves : source.Serves content f.identity Ready) (ready : Ready w) {offset : Nat}
    (within : offset < content.length) (signal size : Nat) :
    ∃ f' w', f.read source signal offset size w =
        (some (.ok ((content.drop offset).take size)), f', w') ∧
      f'.IsReady content ∧ f'.identity = f.identity ∧ Ready w' := by
  have ordered := le_readLimit (Nat.lt_trans within bound) size
  have request : Chunk.request signal offset (readLimit offset size) =
      .ok ⟨signal, offset, readLimit offset size, [], ordered⟩ := dif_pos ordered
  generalize (⟨signal, offset, readLimit offset size, [], ordered⟩ : Chunk) = c at request
  obtain ⟨rfl, rfl, limit, fresh, -⟩ := Chunk.of_request request
  have enqueue : f.enqueue c.signal c.offset (readLimit c.offset size) = (.ok (), f.accept c) := by
    have inside := Nat.not_le.mpr within
    simp [StreamingFile.enqueue, request, h.released, h.size, inside]
  obtain ⟨k, d, use, there, silent, released, identity, same, waiting⟩ := h.accept fresh within
  obtain ⟨d', w', serve, rests, kept, ready'⟩ := waiting.serve ready (by rw [same]; exact serves)
  rw [served_read fresh limit within bound, Chunk.signal_clampTo] at serve
  have current : (f.accept c).1.current? = some d := by
    rw [current?, use, Option.bind_some, there]
  refine ⟨{ (f.accept c).1 with downloaders := (f.accept c).1.downloaders.set k d' }, w', ?_,
    .of_set (released.trans h.released) (by rw [identity, h.size]) use there rests
      (kept.trans (same.trans identity.symm)), identity, ready'⟩
  simp only [StreamingFile.read, enqueue, silent, Firing.result?, List.find?_nil, Option.map_none,
    StreamingFile.serve, use, current, serve, Option.map_some, Completion.answer]

theorem IsReady.read (h : f.IsReady content) (bound : content.length < Limits.offsetBound)
    (serves : source.Serves content f.identity Ready) (ready : Ready w) {offset : Nat}
    (within : offset < Limits.offsetBound) (signal size : Nat) :
    ∃ f' w', f.read source signal offset size w =
        (some (.ok ((content.drop offset).take size)), f', w') ∧
      f'.IsReady content ∧ f'.identity = f.identity ∧ Ready w' := by
  by_cases past : content.length ≤ offset
  · rw [List.drop_eq_nil_of_le past, List.take_nil]
    rw [← h.size] at past
    exact ⟨f.countComplete, w, read_of_past h.released within past,
      ⟨h.released, h.size, h.place, h.current⟩, rfl, ready⟩
  · exact h.read_of_within bound serves ready (Nat.lt_of_not_le past) signal size

theorem IsReady.expire (h : f.IsReady content) :
    f.expire.IsReady content ∧ f.expire.identity = f.identity := by
  cases use : f.inUse with
  | none =>
    have expire : f.expire = f := by simp [StreamingFile.expire, use]
    rw [expire]
    exact ⟨h, rfl⟩
  | some k =>
    obtain ⟨d, there⟩ : ∃ d, f.downloaders[k]? = some d :=
      ⟨_, List.getElem?_eq_getElem (h.place k use)⟩
    obtain ⟨rests, identity⟩ := h.current d (by simp [current?, use, there])
    have expire : f.expire =
        { f with downloaders := f.downloaders.set k (d.step .take).1 } := by
      simp [StreamingFile.expire, StreamingFile.step, use, there]
    rw [expire]
    exact ⟨.of_set h.released h.size use there (rests.step .take)
      ((d.step_same .take).1.trans identity), rfl⟩

/-- What a reading should answer. -/
def Reading.slice? (content : Bytes) : Reading → Option (Option (Except FileError Bytes))
  | .read _ offset size => some (some (.ok ((content.drop offset).take size)))
  | .expiry => none

theorem IsReady.readAll (readings : List Reading) (h : f.IsReady content)
    (bound : content.length < Limits.offsetBound)
    (serves : source.Serves content f.identity Ready) (ready : Ready w)
    (offsets : ∀ signal offset size, .read signal offset size ∈ readings →
      offset < Limits.offsetBound) :
    readAll source readings f w = readings.filterMap (Reading.slice? content) := by
  induction readings generalizing f w with
  | nil => rfl
  | cons reading rest ih =>
    have later : ∀ signal offset size, .read signal offset size ∈ rest →
        offset < Limits.offsetBound :=
      fun signal offset size mem => offsets signal offset size (List.mem_cons_of_mem _ mem)
    cases reading with
    | read signal offset size =>
      obtain ⟨f', w', answer, after, same, ready'⟩ :=
        h.read bound serves ready (offsets signal offset size List.mem_cons_self) signal size
      rw [StreamingFile.readAll, answer, List.filterMap_cons]
      simp only [Reading.slice?]
      rw [ih after (by rw [same]; exact serves) ready' later]
    | expiry =>
      obtain ⟨after, same⟩ := h.expire
      rw [StreamingFile.readAll, List.filterMap_cons]
      simp only [Reading.slice?]
      rw [ih after (by rw [same]; exact serves) ready later]

end StreamingFile

namespace SharedFile

/-- All downloaders are for the file, and the one in use is one of them. -/
structure Housed (identity : FileIdentity) (s : SharedFile) : Prop where
  file : s.file.identity = identity
  downloaders : ∀ d ∈ s.file.downloaders, d.identity = identity
  place : ∀ k, s.file.inUse = some k → k < s.file.downloaders.length

theorem Happens.housed {identity : FileIdentity} {s s' : SharedFile} (h : Happens s s')
    (inv : s.Housed identity) : s'.Housed identity := by
  obtain ⟨file, downloaders, place⟩ := inv
  cases h with
  | answers counted _ _ =>
    obtain ⟨same, list, use, -⟩ := StreamingFile.same_of_counted counted
    refine ⟨same.trans file, ?_, ?_⟩
    · simpa [list] using downloaders
    · simpa [list, use] using place
  | withdraws free => exact ⟨file, downloaders, fun k use => by cases use⟩
  | launches found stage =>
    refine ⟨file, ?_, ?_⟩
    · simpa [StreamingFile.launch, or_imp, forall_and, Downloader.start, file] using downloaders
    · simp [StreamingFile.launch]
  | launchFails found stage => exact ⟨file, downloaders, fun k use => by cases use⟩
  | @offers i k call c d d' fired found stage use takes =>
    refine ⟨file, ?_, ?_⟩
    · intro b mem
      rcases List.mem_or_eq_of_mem_set mem with old | rfl
      · exact downloaders b old
      · have same : b.identity = d.identity := by cases takes <;> rfl
        exact same.trans (downloaders d (List.mem_of_getElem? use))
    · simpa using place
  | @leaves i call errand found stage =>
    refine ⟨file, ?_, ?_⟩
    · intro b mem
      obtain ⟨k, there⟩ := List.mem_iff_getElem?.mp mem
      rw [StreamingFile.getElem?_stopAll] at there
      obtain ⟨d, before, rfl⟩ := Option.map_eq_some_iff.mp there
      have same := downloaders d (List.mem_of_getElem? before)
      split <;> exact same
    · simpa [StreamingFile.stopAll] using place
  | moves found move =>
    refine ⟨file, ?_, ?_⟩
    · intro b mem
      rcases List.mem_or_eq_of_mem_set mem with old | rfl
      · exact downloaders b old
      · exact move.same.1.trans (downloaders _ (List.mem_of_getElem? found))
    · simpa using place
  | _ => exact ⟨file, downloaders, place⟩

theorem housed_start (identity : FileIdentity) (options : DownloadOptions) :
    (start identity options).Housed identity := by
  refine ⟨rfl, ?_, ?_⟩
  · intro d mem
    cases mem
  · intro k use
    cases use

end SharedFile

open SharedFile (Happening start)

end RangeFetch
