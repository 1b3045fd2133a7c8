import GatedMemory.Proofs.SecureModule.Episodes
import Mathlib.Data.List.DropRight

set_option autoImplicit false

namespace GatedMemory

variable {ρ μ : Type}

namespace Episode

variable {past : List (Episode SecureModule SecureEvent)}
  {episode : Episode SecureModule SecureEvent}

def isEdge (episode : Episode SecureModule SecureEvent) : Bool :=
  episode.call = .event .edge

/-- The episodes after the last edge, and all of them before the first. -/
def sinceEdge (past : List (Episode SecureModule SecureEvent)) :
    List (Episode SecureModule SecureEvent) :=
  past.rtakeWhile fun episode => !episode.isEdge

theorem sinceEdge_concat_of_edge (edge : episode.isEdge = true) :
    sinceEdge (past ++ [episode]) = [] :=
  List.rtakeWhile_concat_neg _ _ _ (by simp [edge])

theorem sinceEdge_concat (other : episode.isEdge = false) :
    sinceEdge (past ++ [episode]) = sinceEdge past ++ [episode] :=
  List.rtakeWhile_concat_pos _ _ _ (by simp [other])

theorem refusesRequest_of_none (none : episode.returned = none) :
    episode.refusesRequest = false := by
  unfold refusesRequest
  split <;> simp [none]

theorem refusesResponse_of_none (none : episode.returned = none) :
    episode.refusesResponse = false := by
  unfold refusesResponse
  split <;> simp [none]

/-- At an edge, each peer that was refused anything since the edge before is told once that it can
send again; else no peer is told anything. -/
structure Settles (past : List (Episode SecureModule SecureEvent))
    (episode : Episode SecureModule SecureEvent) : Prop where
  requester : episode.requestRetries =
    if episode.isEdge && (sinceEdge past).any refusesRequest then 1 else 0
  memory : episode.responseRetries =
    if episode.isEdge && (sinceEdge past).any refusesResponse then 1 else 0

namespace Leaves

variable [ResponseSink ρ] [RequestSink μ] {next : Gate} (leaves : episode.Leaves ρ μ next)
include leaves

theorem requestRetries_eq : episode.requestRetries =
    if episode.isEdge && episode.component.gate.towardRequester.owesRetry then 1 else 0 := by
  obtain ⟨component, call, returned, requester, memory⟩ := episode
  change component.gate.Deals ρ μ call returned requester memory next at leaves
  cases leaves with
  | idle idle =>
    have other : call ≠ .event .edge := by rintro rfl; exact idle
    simp [requestRetries, isEdge, other]
  | edge sends delivers =>
    simp [requestRetries, isEdge, delivers.count_retried, FlowFlags.count_dues]
  | _ => simp [requestRetries, isEdge]

theorem responseRetries_eq : episode.responseRetries =
    if episode.isEdge && episode.component.gate.towardMemory.owesRetry then 1 else 0 := by
  obtain ⟨component, call, returned, requester, memory⟩ := episode
  change component.gate.Deals ρ μ call returned requester memory next at leaves
  cases leaves with
  | idle idle =>
    have other : call ≠ .event .edge := by rintro rfl; exact idle
    simp [responseRetries, isEdge, other]
  | edge sends delivers =>
    simp [responseRetries, isEdge, sends.count_retried, FlowFlags.count_dues]
  | reopened sends => simp [responseRetries, isEdge, sends.count_retried]
  | _ => simp [responseRetries, isEdge]

/-- The requester is owed a retry from a refusal to the next edge. -/
theorem owesRequest_eq : next.towardRequester.owesRetry =
    (!episode.isEdge && (episode.component.gate.towardRequester.owesRetry ||
      episode.refusesRequest)) := by
  obtain ⟨component, call, returned, requester, memory⟩ := episode
  change component.gate.Deals ρ μ call returned requester memory next at leaves
  cases leaves with
  | idle idle =>
    have other : call ≠ .event .edge := by rintro rfl; exact idle
    rw [refusesRequest_of_none rfl]
    simp [isEdge, other]
  | reopened sends => simp [isEdge, refusesRequest, sends.frame.2.1, Gate.reopened]
  | edge => simp [isEdge, Gate.settled, Gate.takeRequestRetry, Gate.takeResponseRetry]
  | admitted | refused | answered | declined | unblocked | checkOver =>
    simp [isEdge, refusesRequest, Gate.withRequest, Gate.withoutRequest, Gate.withResponse,
      Gate.withoutResponse, Gate.unblockRequester, Gate.finishWait]

/-- Memory is owed a retry from a refusal to the next edge: a response that is taken meanwhile finds
room, so that nothing was owed. -/
theorem owesResponse_eq (full : episode.component.gate.towardMemory.owesRetry = true →
    episode.component.gate.responses.capacity ≤
      episode.component.gate.responses.items.length) : next.towardMemory.owesRetry =
    (!episode.isEdge && (episode.component.gate.towardMemory.owesRetry ||
      episode.refusesResponse)) := by
  obtain ⟨component, call, returned, requester, memory⟩ := episode
  change component.gate.Deals ρ μ call returned requester memory next at leaves
  cases leaves with
  | idle idle =>
    have other : call ≠ .event .edge := by rintro rfl; exact idle
    rw [refusesResponse_of_none rfl]
    simp [isEdge, other]
  | answered room =>
    have none : component.gate.towardMemory.owesRetry = false :=
      Bool.eq_false_iff.2 fun owed => Nat.not_le.2 room (full owed)
    simp [isEdge, refusesResponse, Gate.withResponse, none]
  | reopened sends => simp [isEdge, refusesResponse, sends.frame.2.2.1, Gate.reopened]
  | edge => simp [isEdge, Gate.settled, Gate.takeRequestRetry, Gate.takeResponseRetry]
  | admitted | refused | declined | unblocked | checkOver =>
    simp [isEdge, refusesResponse, Gate.withRequest, Gate.withoutRequest, Gate.withoutResponse,
      Gate.unblockRequester, Gate.finishWait]

/-- A retry is owed to memory only while the responses are full. -/
theorem full (full : episode.component.gate.towardMemory.owesRetry = true →
    episode.component.gate.responses.capacity ≤
      episode.component.gate.responses.items.length)
    (owed : next.towardMemory.owesRetry = true) :
    next.responses.capacity ≤ next.responses.items.length := by
  obtain ⟨component, call, returned, requester, memory⟩ := episode
  change component.gate.Deals ρ μ call returned requester memory next at leaves
  cases leaves with
  | answered room => cases owed
  | edge => cases owed
  | declined crowded => exact crowded
  | reopened sends =>
    obtain ⟨responses, -, same, -⟩ := sends.frame
    rw [responses]
    exact full (same.symm.trans owed)
  | idle | admitted | refused | unblocked | checkOver => exact full owed

end Leaves

/-- Between two calls, whoever was refused anything since the last edge is owed a retry. -/
structure Owes (past : List (Episode SecureModule SecureEvent)) (gate : Gate) : Prop where
  settles : Throughout Settles past
  requester : gate.towardRequester.owesRetry = (sinceEdge past).any refusesRequest
  memory : gate.towardMemory.owesRetry = (sinceEdge past).any refusesResponse
  full : gate.towardMemory.owesRetry = true →
    gate.responses.capacity ≤ gate.responses.items.length

theorem Owes.concat [ResponseSink ρ] [RequestSink μ] {gate : Gate}
    (owes : Owes past episode.component.gate) (leaves : episode.Leaves ρ μ gate) :
    Owes (past ++ [episode]) gate := by
  have requester := leaves.owesRequest_eq
  have memory := leaves.owesResponse_eq owes.full
  have settles : Settles past episode :=
    ⟨owes.requester ▸ leaves.requestRetries_eq, owes.memory ▸ leaves.responseRetries_eq⟩
  refine ⟨owes.settles.concat settles, ?_, ?_, leaves.full owes.full⟩
  · cases edge : episode.isEdge with
    | true => simp [sinceEdge_concat_of_edge edge, requester, edge]
    | false => simp [sinceEdge_concat edge, requester, edge, owes.requester]
  · cases edge : episode.isEdge with
    | true => simp [sinceEdge_concat_of_edge edge, memory, edge]
    | false => simp [sinceEdge_concat edge, memory, edge, owes.memory]

end Episode

namespace Diary

/-- Whatever is done to a module, each edge tells each peer that was refused anything since the edge
before, once, and nothing else tells anyone anything. -/
theorem refusals_settled [ResponseSink ρ] [RequestSink μ] (config : SecureModuleConfig)
    (valid : config.validate = .ok ()) (requester : ρ) (memory : μ)
    (happenings : List (Happening SecureEvent ρ μ)) :
    SecureModule.build config = .ok (SecureModule.fresh config) ∧
    Gives Overflow (happenings.foldlM live (blank (SecureModule.fresh config) requester memory))
      fun diary => Throughout Episode.Settles diary.episodes := by
  refine ⟨SecureModule.build_eq_ok valid, ?_⟩
  have keeps : ∀ past episode gate, Episode.Owes past episode.component.gate →
      episode.Leaves ρ μ gate → Episode.Owes (past ++ [episode]) gate :=
    fun _ _ _ owes leaves => owes.concat leaves
  have opening : Episode.Owes [] (.empty config.requestCapacity config.responseCapacity) :=
    ⟨.nil, rfl, rfl, nofun⟩
  exact (module_keeps valid keeps opening requester memory happenings).mono fun _ owes =>
    owes.settles

/-- Of six edges, the fifth tells both peers, and the last one memory alone. -/
theorem refusals_settled_single_places :
    SecureModuleConfig.validate .singlePlaces = .ok () ∧
    SecureModule.build .singlePlaces = .ok (SecureModule.fresh .singlePlaces) ∧
    Yields (singlePlaceHappenings.foldlM live singlePlaces) fun diary =>
      Throughout Episode.Settles diary.episodes ∧
      (diary.episodes.filter Episode.isEdge).map (fun edge =>
        (edge.requestRetries, edge.responseRetries)) =
          [(0, 0), (0, 0), (0, 0), (0, 0), (1, 1), (0, 1)] := by
  obtain ⟨built, settled⟩ := refusals_settled .singlePlaces rfl _ _ singlePlaceHappenings
  refine ⟨rfl, built, (settled.and_of_map ?_).yields_of_isOk ?_⟩ <;> decide +kernel

end Diary

end GatedMemory
