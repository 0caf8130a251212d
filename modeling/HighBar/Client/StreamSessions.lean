import HighBar.Client.StateStream
import HighBar.Grpc.StreamStateGapFree

/-!
# A client and its streams

The pumps of the server and the checkers of the clients, put together. A client has received **some
beginning** of what the pump of its stream has written. When the stream ends it opens another one,
from the last number that it has seen.
-/

namespace HighBar.Client

open Grpc StreamSystem List

variable {π β : Type*}

/-- What a client has received over its streams, each at a moment of the run. -/
inductive Received (M : StepMachine (StreamSystem π β) (StreamLabel π)) :
    List (StateUpdate π) → Prop
  | stream {s : StreamSystem π β} {i : SlotId} {received : List (StateUpdate π)} :
    M.Reachable s → received <+: (s.pumps i).written → Received M received
  /-- A stream from the last number on, which the ring still had. -/
  | resumed {s : StreamSystem π β} {i : SlotId} {updates received : List (StateUpdate π)}
    {last : StateUpdate π} : Received M updates → last ∈ updates.getLast? →
    M.Reachable s → (s.pumps i).resumeFromSeq = last.seq → (s.pumps i).replayed = true →
    received <+: (s.pumps i).written → Received M (updates ++ received)

variable {codec : UpdateCodec π β} {ringCapacity slotCapacity : ℕ} {hcap : 0 < ringCapacity}
  {s : StreamSystem π β} {i : SlotId} {received updates : List (StateUpdate π)}

/-- The numbers received of one stream. -/
theorem seqs_of_isPrefix (hs : (machine codec ringCapacity hcap slotCapacity).Reachable s)
    (hreceived : received <+: (s.pumps i).written) :
    ∃ first, received.map StateUpdate.seq = List.range' first received.length ∧
      ((s.pumps i).replayed = true → first = (s.pumps i).resumeFromSeq + 1) := by
  obtain ⟨first, hseqs, hreplay⟩ := delivered_of_inv (inv_of_reachable hs) i
  refine ⟨first, ?_, hreplay⟩
  have hmap := hreceived.map StateUpdate.seq
  rw [hseqs] at hmap
  rw [prefix_iff_eq_take.1 hmap, length_map,
    take_range'_of_length_ge hreceived.length_le]

theorem gapFree_of_range' {first : ℕ}
    (h : updates.map StateUpdate.seq = List.range' first updates.length) : GapFree updates := by
  refine (isChain_map (R := fun a b ↦ b = a + 1) StateUpdate.seq).1 ?_
  rw [h]
  exact isChain_range' ..

/-- **Nothing is lost and nothing comes twice**, however often the client reconnects. -/
theorem received_gapFree (h : Received (machine codec ringCapacity hcap slotCapacity) updates) :
    GapFree updates := by
  suffices hseqs : ∃ first, updates.map StateUpdate.seq = List.range' first updates.length from
    hseqs.elim fun _ ↦ gapFree_of_range'
  induction h with
  | stream hs hreceived => exact (seqs_of_isPrefix hs hreceived).imp fun _ ↦ And.left
  | @resumed s i updates received last _ hlast hs hresume hreplayed hreceived ih =>
    obtain ⟨first, hseqs⟩ := ih
    obtain ⟨next, hnext, hstart⟩ := seqs_of_isPrefix hs hreceived
    have hend : (updates.map StateUpdate.seq).getLast? = some last.seq := by
      rw [getLast?_map, hlast]
      rfl
    rw [hseqs, getLast?_range'] at hend
    split_ifs at hend with hempty
    have hjoin : last.seq + 1 = first + updates.length := by grind
    refine ⟨first, ?_⟩
    rw [map_append, hseqs, hnext, length_append, hstart hreplayed, hresume, hjoin,
      range'_append_1]

/-- **Both clients hand over all that a stream has brought**, and raise nothing. -/
theorem stream_handed_over (isSnapshot : π → Bool)
    (hs : (machine codec ringCapacity hcap slotCapacity).Reachable s)
    (hreceived : received <+: (s.pumps i).written) :
    Python.consume received = ⟨received, none⟩ ∧
      (FSharp.consume isSnapshot received).consumed = ⟨received, none⟩ := by
  obtain ⟨_, hseqs, -⟩ := seqs_of_isPrefix hs hreceived
  rw [FSharp.consumed_consume, and_self, consume_eq_whole_iff, ChainPrefix.takeChain_eq_self_iff]
  exact (gapFree_of_range' hseqs).imp fun _ _ ↦ Succeeds.rises

/-- The updates as their own payloads. -/
def plainCodec : UpdateCodec Unit (StateUpdate Unit) := ⟨id, some, fun _ ↦ rfl⟩

/-- A client that has the snapshot with number 1 resumes from it. -/
theorem received_gapFree_resumed :
    ∃ updates, Received (machine plainCodec 3 (by decide) 8) updates ∧
      updates.map StateUpdate.seq = [1, 2, 3, 4] ∧ GapFree updates := by
  let env : PumpEnv Unit := ⟨true, 0, ()⟩
  have hfirst : Received (machine plainCodec 3 (by decide) 8) [⟨1, 0, ()⟩] :=
    .stream (i := 0) ⟨[.publish 0 (), .subscribe 0 0, .pump 0 env, .pump 0 env, .pump 0 env], rfl⟩
      prefix_rfl
  have h := hfirst.resumed (i := 0) rfl ⟨resumeDuringPublish, rfl⟩ rfl rfl prefix_rfl
  exact ⟨_, h, rfl, received_gapFree h⟩

theorem stream_handed_over_resumeDuringPublish :
    ∃ s, (machine plainCodec 3 (by decide) 8).Reachable s ∧
      (s.pumps 0).written.map StateUpdate.seq = [2, 3, 4] ∧
      Python.consume (s.pumps 0).written = ⟨(s.pumps 0).written, none⟩ := by
  have hs : (machine plainCodec 3 (by decide) 8).Reachable _ := ⟨resumeDuringPublish, rfl⟩
  exact ⟨_, hs, rfl, (stream_handed_over (fun _ ↦ false) hs prefix_rfl).1⟩

end HighBar.Client
