import RangeFetch.Proofs.Download.Quest

namespace RangeFetch

variable {ε : Type} {issue : ε → Request → Option (Except SourceError OpenedStream × ε)}
  {identity : FileIdentity} {options : DownloadOptions} {content : Bytes}
  {honours : String → Bool} {Ready : ε → Prop} {peers : List String}

namespace Underway

/-- From now on, the streams that are opened for the chunk are those that answer these requests, in
their order, and with the last of them it is decided what its signal fires with. Only a stop can
prevent it. -/
structure Pursues {ω : Type} (source : Supplier ω) (u : Underway ω) (c : Chunk)
    (requests : List Request) (result : Firing) : Prop where
  opened : ∀ ts, (u.run source ts).openedFor c.signal <+: requests
  fired : ∀ ts, ∀ x ∈ (u.run source ts).history.fired, x.signal = c.signal →
    x = result ∧ (u.run source ts).openedFor c.signal = requests ∨
      x = c.fail .cancelled ∧ Turn.stop ∈ ts
  reached : u.Eventually source fun v => result ∈ v.history.fired

/-- If the chunk fails with the error, this is because of the answer to a request for it; the
downloader has accepted no chunks since, and all that were outstanding have failed alike. -/
def FailsAll {ω : Type} (source : Supplier ω) (u : Underway ω) (c : Chunk) (error : ChunkError) :
    Prop :=
  ∀ ts, c.fail error ∈ (u.run source ts).history.fired → ∃ zs rest, ts = zs ++ .go :: rest ∧
    (u.run source zs).downloader.phase = .requesting c ∧
    (u.run source (zs ++ [.go])).downloader.isStopped = true ∧
    ∀ b ∈ (u.run source zs).downloader.outstanding,
      b.fail error ∈ (u.run source ts).history.fired

end Underway

namespace Quest

variable {q : Quest} {u : Underway (PeerList × ε)}

section Runs

variable (seeks : q.Seeking u) (tended : Tended q.identity options peers Ready u)
  (serve : PeersServe issue peers q.identity q.content q.honours Ready)
  (decided : q.Decided options.maxRangeRestarts)

include seeks tended serve decided

theorem seeking_or_concludes (ts : List Turn) :
    q.Seeking (u.run (PeerList.supplier issue) ts) ∨ ∃ zs rest, ts = zs ++ .go :: rest ∧
      q.Seeking (u.run (PeerList.supplier issue) zs) ∧
      q.Concludes (u.run (PeerList.supplier issue) zs)
        (u.run (PeerList.supplier issue) (zs ++ [.go])) := by
  induction ts generalizing u with
  | nil => exact .inl seeks
  | cons t rest ih =>
    have later := tended.step serve t
    have onwards (seeks' : q.Seeking (u.step (PeerList.supplier issue) t)) :
        q.Seeking (u.run (PeerList.supplier issue) (t :: rest)) ∨ ∃ zs more,
          t :: rest = zs ++ .go :: more ∧ q.Seeking (u.run (PeerList.supplier issue) zs) ∧
            q.Concludes (u.run (PeerList.supplier issue) zs)
              (u.run (PeerList.supplier issue) (zs ++ [.go])) := by
      rcases ih seeks' later with still | ⟨zs, more, rfl, before, concludes⟩
      · exact .inl still
      · exact .inr ⟨t :: zs, more, rfl, before, concludes⟩
    by_cases other : t = .go
    · subst other
      cases seeks.go tended serve decided with
      | nearer seeks' nearer => exact onwards seeks'
      | ends concludes => exact .inr ⟨[], rest, rfl, seeks, concludes⟩
    · exact onwards (seeks.still _ other).1

theorem seeking_or_settling (running : u.downloader.queue.stopped = false) (ts : List Turn) :
    q.Seeking (u.run (PeerList.supplier issue) ts) ∨
      (u.run (PeerList.supplier issue) ts).Settling (q.requests (q.last + 1)) q.result ∨
      Turn.stop ∈ ts ∧ ∃ i, i ≤ q.last + 1 ∧
        (u.run (PeerList.supplier issue) ts).Settling (q.requests i) (q.chunk.fail .cancelled) := by
  rcases seeking_or_concludes seeks tended serve decided ts with
    still | ⟨zs, rest, rfl, -, concludes⟩
  · exact .inl still
  · right
    have placed := (tended.run serve (zs ++ [.go])).placed
    have later : u.run (PeerList.supplier issue) (zs ++ .go :: rest) =
        (u.run (PeerList.supplier issue) (zs ++ [.go])).run (PeerList.supplier issue) rest := by
      rw [List.append_cons, Underway.run_append]
    rw [later]
    rcases concludes.settling with settles | ⟨stopped, i, few, settles⟩
    · exact .inl (settles.run placed _ rest)
    · refine .inr ⟨List.mem_append_left _ ?_, i, few, settles.run placed _ rest⟩
      exact Underway.stop_mem_of_stopped zs running stopped

theorem eventually_result (running : u.downloader.queue.stopped = false) :
    u.Eventually (PeerList.supplier issue) fun v => q.result ∈ v.history.fired := by
  obtain ⟨d, start⟩ : ∃ d, u.downloader = d := ⟨_, rfl⟩
  induction d using Downloader.wellFounded_nearer.induction generalizing u with
  | _ d ih =>
    -- what comes in between leaves the downloader as near as it is
    refine .of_go (Q := fun v => q.Seeking v ∧ Tended q.identity options peers Ready v ∧
      v.downloader.queue.stopped = false ∧ v.downloader.phase = d.phase ∧
      v.downloader.options = d.options ∧ v.downloader.rangeRestarts = d.rangeRestarts)
      ⟨seeks, tended, running, by rw [start], by rw [start], by rw [start]⟩ ?_ ?_
    · rintro v t ⟨seeks, tended, running, phase, options, restarts⟩ other unstopped
      obtain ⟨seeks', phase', options', restarts'⟩ :=
        seeks.still (PeerList.supplier issue) other
      exact ⟨seeks', tended.step serve t, Underway.running_step _ running unstopped,
        phase'.trans phase, options'.trans options, restarts'.trans restarts⟩
    · rintro v ⟨seeks, tended, running, phase, options, restarts⟩
      have running' : (v.step (PeerList.supplier issue) .go).downloader.queue.stopped = false :=
        Underway.running_step _ running nofun
      cases seeks.go tended serve decided with
      | nearer seeks' nearer =>
        exact ih _ (nearer.congr phase options restarts) seeks' (tended.step serve .go) running' rfl
      | ends concludes =>
        have placed := (tended.step serve .go).placed
        rcases concludes.settling with settles | ⟨stopped, -⟩
        · exact settles.eventually placed
        · rw [running] at stopped
          cases stopped

theorem failsAll (ignored : q.honours (q.list.peer q.last) = false) :
    u.FailsAll (PeerList.supplier issue) q.chunk
      (.source (.rangeNotHonored q.chunk.offset (q.last + 1))) := by
  intro ts failed
  have placed (ts : List Turn) := (tended.run serve ts).placed
  rcases seeking_or_concludes seeks tended serve decided ts with
    still | ⟨zs, rest, rfl, -, concludes⟩
  · obtain ⟨b, there, alike⟩ := still.outstanding
    exact absurd alike.symm ((placed ts).not_fired there _ failed)
  · have later : u.run (PeerList.supplier issue) (zs ++ .go :: rest) =
        (u.run (PeerList.supplier issue) (zs ++ [.go])).run (PeerList.supplier issue) rest := by
      rw [List.append_cons, Underway.run_append]
    cases concludes with
    | serves honoured settles =>
      rw [ignored] at honoured
      cases honoured
    | cancels stopped i few settles =>
      have settled := settles.run (placed _) (PeerList.supplier issue) rest
      rw [← later] at settled
      cases settled.eq_of_fired (placed _) failed rfl
    | fails _ phase why history opened =>
      refine ⟨zs, rest, rfl, phase, ?_, ?_⟩
      · rw [Underway.downloader, history, History.move, why.step]
        rfl
      · obtain ⟨xs, run, -⟩ := Underway.history_run (PeerList.supplier issue)
          (u.run (PeerList.supplier issue) (zs ++ [.go])) rest
        rw [later, run, history] at failed ⊢
        exact History.all_fired_of_current why (placed zs) (by rw [phase]; rfl) xs failed

end Runs

end Quest

theorem Quest.pursues {q : Quest} {u : Underway (PeerList × ε)} (seeks : q.Seeking u)
    (tended : Tended q.identity options peers Ready u)
    (serve : PeersServe issue peers q.identity q.content q.honours Ready)
    (decided : q.Decided options.maxRangeRestarts)
    (running : u.downloader.queue.stopped = false) :
    u.Pursues (PeerList.supplier issue) q.chunk (q.requests (q.last + 1)) q.result := by
  have signal : q.result.signal = q.chunk.signal := by
    rw [result]
    split <;> rfl
  constructor
  case opened =>
    intro ts
    have within {i : Nat} (few : i ≤ q.last + 1) : q.requests i <+: q.requests (q.last + 1) :=
      q.list.requests_prefix q.identity q.chunk.offset few
    rcases seeking_or_settling seeks tended serve decided running ts with
      still | settles | ⟨-, i, few, settles⟩
    · obtain ⟨i, few, opened⟩ := still.opened
      rw [opened]
      exact within few
    · have opened := settles.opened
      rw [signal] at opened
      simp only [opened, List.prefix_rfl]
    · have opened : Underway.openedFor _ q.chunk.signal = _ := settles.opened
      rw [opened]
      exact within few
  case fired =>
    intro ts x fired same
    have placed := (tended.run serve ts).placed
    rcases seeking_or_settling seeks tended serve decided running ts with
      still | settles | ⟨stop, i, few, settles⟩
    · obtain ⟨b, there, alike⟩ := still.outstanding
      exact absurd (same.trans alike.symm) (placed.not_fired there x fired)
    · left
      rw [← signal] at same ⊢
      exact ⟨settles.eq_of_fired placed fired same, settles.opened⟩
    · exact .inr ⟨settles.eq_of_fired placed fired same, stop⟩
  case reached => exact eventually_result seeks tended serve decided running

theorem Quest.seeking_of_taken {q : Quest} {u : Underway (PeerList × ε)}
    (tended : Tended q.identity options peers Ready u) (list : u.world.1 = q.list)
    (takes : u.downloader.taken? .take = some q.chunk)
    (asks : (u.downloader.step .take).1.phase = .requesting q.chunk) :
    q.Seeking (u.move .take) := by
  obtain ⟨-, -, ⟨rest, first⟩, free⟩ := Downloader.of_taken? takes
  have restarts : (u.move .take).downloader.rangeRestarts = 0 :=
    (Downloader.rangeRestarts_take u.downloader).trans (tended.paced.free free)
  have unopened : (u.move .take).openedFor q.chunk.signal = [] :=
    tended.recorded.openedFor_of_pending (by rw [first]; exact List.mem_cons_self)
  exact .asking 0 (Nat.zero_le _) asks restarts list unopened

/-- A chunk within the content is served by the first peer that honours ranges, if not more come
before it than restarts are allowed; else it fails with all that wait. The peers are asked in their
order, from the start of the chunk on. -/
theorem peers_asked_in_turn (serve : PeersServe issue peers identity content honours Ready)
    (turn : Nat) {w : ε} (ready : Ready w) (options : DownloadOptions) (ts : List Turn) {c : Chunk}
    (takes : ((Underway.start identity options (⟨peers, turn⟩, w)).run (PeerList.supplier issue)
      ts).downloader.taken? .take = some c)
    (asks : (((Underway.start identity options (⟨peers, turn⟩, w)).run (PeerList.supplier issue)
      ts).downloader.step .take).1.phase = .requesting c)
    (inside : 0 < c.offset) :
    let source := PeerList.supplier issue
    let u := (Underway.start identity options (⟨peers, turn⟩, w)).run source ts
    let next := u.world.1
    let most := options.maxRangeRestarts
    let blame := ChunkError.source (.rangeNotHonored c.offset (most + 1))
    next.peers = peers ∧ c.IsFor u.history.asked identity.size ∧
      (∀ j ≤ most, honours (next.peer j) = true → (∀ i < j, honours (next.peer i) = false) →
        (u.step source .go).Pursues source c (next.requests identity c.offset (j + 1))
          (c.served content)) ∧
      ((∀ i ≤ most, honours (next.peer i) = false) →
        (u.step source .go).Pursues source c (next.requests identity c.offset (most + 1))
            (c.fail blame) ∧
          (u.step source .go).FailsAll source c blame) := by
  intro source u next most blame
  have tended : Tended identity options peers Ready u := (Tended.start ready).run serve ts
  obtain ⟨-, running, ⟨rest, first⟩, -⟩ := Downloader.of_taken? takes
  have waits : c ∈ u.downloader.queue.pending := by rw [first]; exact List.mem_cons_self
  have go : u.step source .go = u.move .take :=
    Underway.go_of_ready (Downloader.wants_of_taken? takes)
  have tended' : Tended identity options peers Ready (u.move .take) := by
    rw [← go]
    exact tended.step serve .go
  have running' : (u.move .take).downloader.queue.stopped = false := by
    rw [← go]
    exact Underway.running_step source running nofun
  -- what does not depend on the peers
  have decided (last : Nat) (few : last ≤ most)
      (vain : ∀ i < last, honours (next.peer i) = false)
      (decided : honours (next.peer last) = true ∨ honours (next.peer last) = false ∧
        last = most) :
      (⟨next, identity, content, honours, c, last⟩ : Quest).Decided most :=
    ⟨tended.fresh.pending c waits, inside,
      tended.isWithin serve.size (Downloader.mem_outstanding.mpr (.inl waits)), few, vain, decided⟩
  refine ⟨tended.peers, ?_, fun j few honoured vain => ?_, fun none => ?_⟩
  · obtain ⟨xs, history⟩ := tended.history
    have queued := History.pending_isFor_run xs identity options
    rw [← history] at queued
    exact queued c waits
  · let q : Quest := ⟨next, identity, content, honours, c, j⟩
    have seeks : q.Seeking (u.move .take) := Quest.seeking_of_taken tended rfl takes asks
    have pursues := Quest.pursues seeks tended' serve (decided j few vain (.inl honoured)) running'
    rw [Quest.result, if_pos honoured] at pursues
    rw [go]
    exact pursues
  · let q : Quest := ⟨next, identity, content, honours, c, most⟩
    have ignored : honours (next.peer most) = false := none most (Nat.le_refl _)
    have seeks : q.Seeking (u.move .take) := Quest.seeking_of_taken tended rfl takes asks
    have decided := decided most (Nat.le_refl _) (fun i earlier => none i (Nat.le_of_lt earlier))
      (.inr ⟨ignored, rfl⟩)
    have pursues := Quest.pursues seeks tended' serve decided running'
    have refuses : ¬ honours (next.peer most) = true := by rw [ignored]; simp
    rw [Quest.result, if_neg refuses] at pursues
    rw [go]
    exact ⟨pursues, Quest.failsAll seeks tended' serve decided ignored⟩

def onlyThird : Unit → Request → Option (Except SourceError OpenedStream × Unit) := fun _ r =>
  let start := if r.url = contentUrl "c" "h" then r.start else 0
  some (.ok ⟨r.url, ⟨start, [.bytes (([10, 11, 12, 13] : Bytes).drop start)], .eof⟩⟩, ())

theorem onlyThird_serve : PeersServe onlyThird ["a", "b", "c"] ⟨"h", 4⟩ [10, 11, 12, 13] (· == "c")
    fun _ => True := by
  refine ⟨by simp, rfl, ?_⟩
  intro base listed w start _ within
  have address : (Request.starting (contentUrl base "h") start).url = contentUrl "c" "h" ↔
      base == "c" := by
    simp only [List.mem_cons, List.not_mem_nil, or_false] at listed
    rcases listed with rfl | rfl | rfl <;> simp only [Request.starting] <;> decide
  refine ⟨_, _, rfl, ?_, ⟨?_, ?_⟩, trivial⟩
  · simp only [address, Request.start_starting]
  · intro item mem
    rw [List.mem_singleton.mp mem]
    rfl
  · simp [joinedBytes, Item.content]

theorem onlyThird_asked_in_turn :
    let source := PeerList.supplier onlyThird
    let u := fun most => (Underway.start ⟨"h", 4⟩ (DownloadOptions.standard.set (.restarts most))
      (PeerList.ofList ["a", "b", "c"], ())).run source [.ask 2 6]
    let c : Chunk := ⟨0, 2, 4, [], by decide⟩
    let r := fun base => Request.starting (contentUrl base "h") 2
    let blame := ChunkError.source (.rangeNotHonored 2 2)
    ((u 2).step source .go).Pursues source c [r "a", r "b", r "c"] ⟨0, .served ⟨2, [12, 13]⟩⟩ ∧
      ((u 1).step source .go).Pursues source c [r "a", r "b"] ⟨0, .failed blame⟩ ∧
      ((u 1).step source .go).FailsAll source c blame := by
  intro source u c r blame
  have takes (most : Nat) : (u most).downloader.taken? .take = some c := rfl
  have asks (most : Nat) : ((u most).downloader.step .take).1.phase = .requesting c := rfl
  obtain ⟨-, -, served, -⟩ := peers_asked_in_turn onlyThird_serve 0 trivial
    (DownloadOptions.standard.set (.restarts 2)) [.ask 2 6] (takes 2) (asks 2) (by decide)
  obtain ⟨-, -, -, failed⟩ := peers_asked_in_turn onlyThird_serve 0 trivial
    (DownloadOptions.standard.set (.restarts 1)) [.ask 2 6] (takes 1) (asks 1) (by decide)
  exact ⟨served 2 (by decide) (by decide) (by decide), failed (by decide)⟩

end RangeFetch
