import GatedMemory.Proofs.SecureModule.Episodes

set_option autoImplicit false

namespace GatedMemory

section

variable {κ ε : Type} {asks : Call ε → Prop} {offers : Episode κ ε → List (Packet × Delivery)}
  {past since : List (Episode κ ε)} {present episode : Episode κ ε} {packet back : Packet}
  {blocked blocked' : Bool} {first first' : Option Packet}

/-- The peer refused an offer and handed back this packet, and these episodes came since. -/
def Refused (offers : Episode κ ε → List (Packet × Delivery)) (past : List (Episode κ ε))
    (back : Packet) (since : List (Episode κ ε)) : Prop :=
  ∃ before refused packet, past = before ++ refused :: since ∧
    (packet, .rejected back) ∈ offers refused

theorem Refused.of_concat (refused : Refused offers (past ++ [episode]) back since) :
    (since = [] ∧ ∃ packet, (packet, .rejected back) ∈ offers episode) ∨
      ∃ earlier, since = earlier ++ [episode] ∧ Refused offers past back earlier := by
  obtain ⟨before, refusing, packet, split, member⟩ := refused
  rcases concat_eq_append_cons split with ⟨rfl, rfl, rfl⟩ | ⟨earlier, rfl, rfl⟩
  · exact .inl ⟨rfl, packet, member⟩
  · exact .inr ⟨earlier, rfl, before, refusing, packet, rfl, member⟩

/-- After an offer that the peer refused, nothing is offered to it until it asks, and then it is
offered the packet that it handed back. -/
structure Patient (asks : Call ε → Prop) (offers : Episode κ ε → List (Packet × Delivery))
    (past : List (Episode κ ε)) (present : Episode κ ε) : Prop where
  asked : ∀ back since, Refused offers past back since → offers present ≠ [] →
    ∃ episode ∈ since ++ [present], asks episode.call
  again : ∀ back since, Refused offers past back since →
    (∀ episode ∈ since, offers episode = []) → ∀ offer ∈ offers present, offer.1 = back

/-- What a call can do to a peer: `blocked` tells whether the peer has to ask before it is offered
anything, and `first` is what is first in line for it. -/
inductive Treats (asked blocked : Prop) (first : Option Packet) :
    List (Packet × Delivery) → Prop → Option Packet → Prop where
  | quiet {blocked' : Prop} {first' : Option Packet} (stays : blocked → blocked' ∨ asked)
    (keeps : ∀ packet, first = some packet → first' = some packet) :
    Treats asked blocked first [] blocked' first'
  | taken {packet : Packet} {blocked' : Prop} {first' : Option Packet} (free : blocked → asked)
    (oldest : first = some packet) :
    Treats asked blocked first [(packet, .accepted)] blocked' first'
  | refused {packet back : Packet} {blocked' : Prop} (free : blocked → asked)
    (oldest : first = some packet) (blocks : blocked') :
    Treats asked blocked first [(packet, .rejected back)] blocked' (some back)

theorem Treats.length_le {asked blocked blocked' : Prop} {made : List (Packet × Delivery)}
    (treats : Treats asked blocked first made blocked' first') : made.length ≤ 1 := by
  cases treats with
  | quiet => exact Nat.zero_le 1
  | taken | refused => exact Nat.le_refl 1

/-- Since its last refusal the peer is blocked or has asked, and what it refused is first in line as
long as nothing else was offered. -/
structure Waits (asks : Call ε → Prop) (offers : Episode κ ε → List (Packet × Delivery))
    (past : List (Episode κ ε)) (blocked : Prop) (first : Option Packet) : Prop where
  patient : Throughout (Patient asks offers) past
  owed : ∀ back since, Refused offers past back since →
    blocked ∨ ∃ episode ∈ since, asks episode.call
  held : ∀ back since, Refused offers past back since →
    (∀ episode ∈ since, offers episode = []) → first = some back

theorem Waits.nil {blocked : Prop} : Waits asks offers [] blocked first where
  patient := .nil
  owed _ _ := fun ⟨_, _, _, split, _⟩ => by simp at split
  held _ _ := fun ⟨_, _, _, split, _⟩ => by simp at split

section

variable {blocked blocked' : Prop} (waits : Waits asks offers past blocked first)
  (treats : Treats (asks episode.call) blocked first (offers episode) blocked' first')
include waits treats

/-- A peer that refused something is patiently waited for. -/
theorem Waits.patience : Patient asks offers past episode := by
  generalize made : offers episode = offered at treats
  constructor
  · intro back since refused some_offer
    have free : blocked → asks episode.call := by
      cases treats with
      | quiet => exact absurd made some_offer
      | taken free | refused free => exact free
    rcases waits.owed back since refused with blocks | ⟨earlier, member, asked⟩
    · exact ⟨episode, List.mem_append_right _ List.mem_cons_self, free blocks⟩
    · exact ⟨earlier, List.mem_append_left _ member, asked⟩
  · intro back since refused none offer member
    have held := waits.held back since refused none
    rw [made] at member
    cases treats with
    | quiet => cases member
    | taken free oldest | refused free oldest =>
      obtain rfl := List.mem_singleton.1 member
      exact Option.some.inj (oldest.symm.trans held)

theorem Waits.concat : Waits asks offers (past ++ [episode]) blocked' first' := by
  refine ⟨waits.patient.concat (waits.patience treats), ?_, ?_⟩
  · intro back since refused
    rcases refused.of_concat with ⟨-, packet, member⟩ | ⟨earlier, rfl, before⟩
    · generalize offers episode = offered at treats member
      cases treats with
      | quiet => cases member
      | taken => cases List.mem_singleton.1 member
      | refused free oldest blocks => exact .inl blocks
    · have asked (now : asks episode.call) : ∃ other ∈ earlier ++ [episode], asks other.call :=
        ⟨episode, List.mem_append_right _ List.mem_cons_self, now⟩
      rcases waits.owed back earlier before with blocks | ⟨other, member, asks⟩
      · generalize offers episode = offered at treats
        cases treats with
        | quiet stays => exact (stays blocks).imp_right asked
        | taken free | refused free => exact .inr (asked (free blocks))
      · exact .inr ⟨other, List.mem_append_left _ member, asks⟩
  · intro back since refused none
    rcases refused.of_concat with ⟨-, packet, member⟩ | ⟨earlier, rfl, before⟩
    · generalize offers episode = offered at treats member
      cases treats with
      | quiet => cases member
      | taken => cases List.mem_singleton.1 member
      | refused =>
        cases List.mem_singleton.1 member
        rfl
    · have held := waits.held back earlier before fun other member =>
        none other (List.mem_append_left _ member)
      rw [none episode (List.mem_append_right _ List.mem_cons_self)] at treats
      cases treats with
      | quiet stays keeps => exact keeps back held

end

end

variable {ρ μ : Type}

namespace Gate

variable [ResponseSink ρ] [RequestSink μ] {gate sent : Gate} {exchanges : List Exchange}

def firstRequest? (gate : Gate) : Option Packet :=
  gate.requests.head?.map QueuedRequest.packet

theorem firstRequest?_congr {gate next : Gate} (same : next.requests = gate.requests) :
    next.firstRequest? = gate.firstRequest? := by
  rw [firstRequest?, firstRequest?, same]

theorem firstRequest?_withRequest {gate : Gate} (packet : Packet) :
    (gate.withRequest packet).firstRequest? = gate.firstRequest?.or (some packet) := by
  simp only [firstRequest?, BoundedFifo.head?, withRequest, List.head?_append, Option.map_or]
  rfl

theorem OffersRequest.treats {asked blocked : Prop} (offers : gate.OffersRequest μ exchanges sent)
    (stays : blocked → gate.towardMemory.blocked = true ∨ asked) :
    Treats asked blocked gate.firstRequest? (exchanges.filterMap Exchange.offer?)
      (sent.towardMemory.blocked = true) sent.firstRequest? := by
  cases offers with
  | idle => exact .quiet stays fun _ first => first
  | taken unblocked items =>
    refine .taken (fun blocks => ?_) ?_
    · exact (stays blocks).resolve_left (Bool.eq_false_iff.1 unblocked)
    · simp only [firstRequest?, BoundedFifo.head?, items]
      rfl
  | refused unblocked items =>
    refine .refused (fun blocks => ?_) ?_ rfl
    · exact (stays blocks).resolve_left (Bool.eq_false_iff.1 unblocked)
    · simp only [firstRequest?, BoundedFifo.head?, items]
      rfl

theorem OffersResponse.treats {asked : Prop} (offers : gate.OffersResponse ρ exchanges sent) :
    Treats asked (gate.towardRequester.blocked = true) gate.responses.head?
      (exchanges.filterMap Exchange.offer?) (sent.towardRequester.blocked = true)
      sent.responses.head? := by
  cases offers with
  | idle => exact .quiet .inl fun _ first => first
  | taken unblocked items =>
    refine .taken (fun blocks => absurd blocks (Bool.eq_false_iff.1 unblocked)) ?_
    simp only [BoundedFifo.head?, items]
    rfl
  | refused unblocked items =>
    refine .refused (fun blocks => absurd blocks (Bool.eq_false_iff.1 unblocked)) ?_ rfl
    simp only [BoundedFifo.head?, items]
    rfl

/-- What is offered to memory is the oldest request, and its check is over. -/
theorem OffersRequest.ready (offers : gate.OffersRequest μ exchanges sent) :
    ∀ offer ∈ exchanges.filterMap Exchange.offer?, ∃ head, gate.readyHead? = some head ∧
      offer.1 = head.packet := by
  cases offers with
  | idle => exact nofun
  | @taken head rest _ unblocked items ready | @refused head rest _ _ _ _ unblocked items ready =>
    intro offer member
    obtain rfl := List.mem_singleton.1 member
    exact ⟨head, readyHead?_eq_some_iff.2 ⟨items ▸ rfl, ready⟩, rfl⟩

/-- What is offered to the requester is the oldest response. -/
theorem OffersResponse.oldest (offers : gate.OffersResponse ρ exchanges sent) :
    ∀ offer ∈ exchanges.filterMap Exchange.offer?, gate.responses.head? = some offer.1 := by
  cases offers with
  | idle => exact nofun
  | @taken head rest now unblocked items | @refused head _ rest now _ _ unblocked items =>
    intro offer member
    obtain rfl := List.mem_singleton.1 member
    simp only [BoundedFifo.head?, items]
    rfl

theorem OffersRequest.honest (honest : RequestSink.Honest μ)
    (offers : gate.OffersRequest μ exchanges sent) : ∀ packet back,
    (packet, .rejected back) ∈ exchanges.filterMap Exchange.offer? → back = packet := by
  intro packet back member
  cases offers with
  | idle => cases member
  | taken => cases List.mem_singleton.1 member
  | refused unblocked items ready answer =>
    cases List.mem_singleton.1 member
    exact honest _ _ _ _ _ answer

theorem OffersResponse.honest (honest : ResponseSink.Honest ρ)
    (offers : gate.OffersResponse ρ exchanges sent) : ∀ packet back,
    (packet, .rejected back) ∈ exchanges.filterMap Exchange.offer? → back = packet := by
  intro packet back member
  cases offers with
  | idle => cases member
  | taken => cases List.mem_singleton.1 member
  | refused unblocked items answer =>
    cases List.mem_singleton.1 member
    exact honest _ _ _ _ _ answer

end Gate

theorem FlowFlags.offers_dues (flags : FlowFlags) :
    flags.dues.filterMap Exchange.offer? = [] := by
  unfold dues
  split <;> rfl

namespace Episode

variable {past : List (Episode SecureModule SecureEvent)}
  {episode : Episode SecureModule SecureEvent}

/-- How an episode treats both peers. -/
structure Disciplined (past : List (Episode SecureModule SecureEvent))
    (episode : Episode SecureModule SecureEvent) : Prop where
  /-- Memory asks with its retry. -/
  memory : Patient (· = .requestRetry) requestOffers past episode
  /-- The requester asks with its retry. -/
  requester : Patient (· = .responseRetry) responseOffers past episode
  fewRequests : episode.requestOffers.length ≤ 1
  fewResponses : episode.responseOffers.length ≤ 1
  requestCalls : episode.requestOffers ≠ [] →
    episode.call = .event .edge ∨ episode.call = .requestRetry
  responseCalls : episode.responseOffers ≠ [] → episode.call = .event .edge
  ready : ∀ offer ∈ episode.requestOffers,
    ∃ head, episode.component.gate.readyHead? = some head ∧ offer.1 = head.packet
  oldest : ∀ offer ∈ episode.responseOffers,
    episode.component.gate.responses.head? = some offer.1

namespace Leaves

variable [ResponseSink ρ] [RequestSink μ] {next : Gate} (leaves : episode.Leaves ρ μ next)
include leaves

theorem treatsMemory : Treats (episode.call = .requestRetry)
    (episode.component.gate.towardMemory.blocked = true) episode.component.gate.firstRequest?
    episode.requestOffers (next.towardMemory.blocked = true) next.firstRequest? := by
  obtain ⟨component, call, returned, requester, memory⟩ := episode
  change component.gate.Deals ρ μ call returned requester memory next at leaves
  cases leaves with
  | reopened sends => exact sends.treats fun _ => .inr rfl
  | edge sends delivers =>
    have treats : Treats (Call.event SecureEvent.edge = .requestRetry) _ _ _ _ _ :=
      sends.treats .inl
    obtain ⟨requests, -, flags, -⟩ := delivers.frame
    simp only [requestOffers, List.filterMap_append, FlowFlags.offers_dues, List.append_nil]
    rw [← flags, ← Gate.firstRequest?_congr requests] at treats
    exact treats
  | @admitted packet =>
    refine .quiet .inl fun first found => ?_
    rw [Gate.firstRequest?_withRequest, found]
    rfl
  | idle | refused | answered | declined | unblocked | checkOver =>
    exact .quiet .inl fun _ first => first

theorem treatsRequester : Treats (episode.call = .responseRetry)
    (episode.component.gate.towardRequester.blocked = true) episode.component.gate.responses.head?
    episode.responseOffers (next.towardRequester.blocked = true) next.responses.head? := by
  obtain ⟨component, call, returned, requester, memory⟩ := episode
  change component.gate.Deals ρ μ call returned requester memory next at leaves
  cases leaves with
  | reopened sends =>
    obtain ⟨responses, flags, -⟩ := sends.frame
    rw [responses, flags]
    exact .quiet .inl fun _ first => first
  | edge sends delivers =>
    have treats : Treats (Call.event SecureEvent.edge = .responseRetry) _ _ _ _ _ :=
      delivers.treats
    obtain ⟨responses, flags, -⟩ := sends.frame
    simp only [responseOffers, List.filterMap_append, FlowFlags.offers_dues, List.append_nil]
    rw [responses, flags] at treats
    exact treats
  | answered =>
    refine .quiet .inl fun first found => ?_
    simp only [BoundedFifo.head?] at found
    simp only [BoundedFifo.head?, Gate.withResponse, List.head?_append, found, Option.some_or]
  | unblocked => exact .quiet (fun _ => .inr rfl) fun _ first => first
  | idle | admitted | refused | declined | checkOver =>
    exact .quiet .inl fun _ first => first

theorem requestOffers_cases : episode.requestOffers = [] ∨
    (episode.call = .event .edge ∨ episode.call = .requestRetry) ∧
    ∃ (gate : Gate) (requests : List Exchange) (sent : Gate),
      gate.readyHead? = episode.component.gate.readyHead? ∧
      gate.OffersRequest μ requests sent ∧
      episode.requestOffers = requests.filterMap Exchange.offer? := by
  obtain ⟨component, call, returned, requester, memory⟩ := episode
  change component.gate.Deals ρ μ call returned requester memory next at leaves
  cases leaves with
  | reopened sends => exact .inr ⟨.inr rfl, component.gate.reopened, memory, next, rfl, sends, rfl⟩
  | edge sends delivers =>
    refine .inr ⟨.inl rfl, _, _, _, rfl, sends, ?_⟩
    simp only [requestOffers, List.filterMap_append, FlowFlags.offers_dues, List.append_nil]
  | _ => exact .inl rfl

theorem responseOffers_cases : episode.responseOffers = [] ∨
    episode.call = .event .edge ∧
    ∃ (gate : Gate) (responses : List Exchange) (sent : Gate),
      gate.responses = episode.component.gate.responses ∧
      gate.OffersResponse ρ responses sent ∧
      episode.responseOffers = responses.filterMap Exchange.offer? := by
  obtain ⟨component, call, returned, requester, memory⟩ := episode
  change component.gate.Deals ρ μ call returned requester memory next at leaves
  cases leaves with
  | edge sends delivers =>
    refine .inr ⟨rfl, _, _, _, sends.frame.1, delivers, ?_⟩
    simp only [responseOffers, List.filterMap_append, FlowFlags.offers_dues, List.append_nil]
  | _ => exact .inl rfl

theorem disciplined (memory : Patient (· = .requestRetry) requestOffers past episode)
    (requester : Patient (· = .responseRetry) responseOffers past episode) :
    Disciplined past episode where
  memory := memory
  requester := requester
  fewRequests := leaves.treatsMemory.length_le
  fewResponses := leaves.treatsRequester.length_le
  requestCalls some_offer := (leaves.requestOffers_cases.resolve_left some_offer).1
  responseCalls some_offer := (leaves.responseOffers_cases.resolve_left some_offer).1
  ready offer member := by
    obtain ⟨-, gate, requests, sent, same, sends, made⟩ :=
      leaves.requestOffers_cases.resolve_left (List.ne_nil_of_mem member)
    rw [made] at member
    rw [← same]
    exact sends.ready offer member
  oldest offer member := by
    obtain ⟨-, gate, responses, sent, same, delivers, made⟩ :=
      leaves.responseOffers_cases.resolve_left (List.ne_nil_of_mem member)
    rw [made] at member
    rw [← same]
    exact delivers.oldest offer member

theorem honest_requests (honest : RequestSink.Honest μ) : ∀ packet back,
    (packet, .rejected back) ∈ episode.requestOffers → back = packet := by
  intro packet back member
  obtain ⟨-, gate, requests, sent, -, sends, made⟩ :=
    leaves.requestOffers_cases.resolve_left (List.ne_nil_of_mem member)
  exact sends.honest honest packet back (made ▸ member)

theorem honest_responses (honest : ResponseSink.Honest ρ) : ∀ packet back,
    (packet, .rejected back) ∈ episode.responseOffers → back = packet := by
  intro packet back member
  obtain ⟨-, gate, responses, sent, -, delivers, made⟩ :=
    leaves.responseOffers_cases.resolve_left (List.ne_nil_of_mem member)
  exact delivers.honest honest packet back (made ▸ member)

end Leaves

/-- Between two calls, both peers are waited for, and what they refused is first in line. -/
structure Blocks (ρ μ : Type) [ResponseSink ρ] [RequestSink μ]
    (past : List (Episode SecureModule SecureEvent)) (gate : Gate) : Prop where
  disciplined : Throughout Disciplined past
  memory : Waits (· = .requestRetry) requestOffers past (gate.towardMemory.blocked = true)
    gate.firstRequest?
  requester : Waits (· = .responseRetry) responseOffers past (gate.towardRequester.blocked = true)
    gate.responses.head?
  honestMemory : RequestSink.Honest μ → ∀ episode ∈ past, ∀ packet back,
    (packet, .rejected back) ∈ episode.requestOffers → back = packet
  honestRequester : ResponseSink.Honest ρ → ∀ episode ∈ past, ∀ packet back,
    (packet, .rejected back) ∈ episode.responseOffers → back = packet

theorem blocks_empty (ρ μ : Type) [ResponseSink ρ] [RequestSink μ]
    (requestCapacity responseCapacity : Nat) :
    Blocks ρ μ [] (.empty requestCapacity responseCapacity) where
  disciplined := .nil
  memory := .nil
  requester := .nil
  honestMemory _ _ member := absurd member List.not_mem_nil
  honestRequester _ _ member := absurd member List.not_mem_nil

theorem Blocks.concat [ResponseSink ρ] [RequestSink μ] {gate : Gate}
    (blocks : Blocks ρ μ past episode.component.gate) (leaves : episode.Leaves ρ μ gate) :
    Blocks ρ μ (past ++ [episode]) gate where
  disciplined := blocks.disciplined.concat (leaves.disciplined
    (blocks.memory.patience leaves.treatsMemory) (blocks.requester.patience leaves.treatsRequester))
  memory := blocks.memory.concat leaves.treatsMemory
  requester := blocks.requester.concat leaves.treatsRequester
  honestMemory honest other member := by
    rcases List.mem_append.1 member with old | new
    · exact blocks.honestMemory honest other old
    · exact List.mem_singleton.1 new ▸ leaves.honest_requests honest
  honestRequester honest other member := by
    rcases List.mem_append.1 member with old | new
    · exact blocks.honestRequester honest other old
    · exact List.mem_singleton.1 new ▸ leaves.honest_responses honest

end Episode

namespace Diary

/-- Whatever is done to a module, a peer that refused an offer is offered nothing until it asks, and
then it is offered the packet that came back from it: the same one, if the peer is honest. -/
theorem refused_peers_ask [ResponseSink ρ] [RequestSink μ] (config : SecureModuleConfig)
    (valid : config.validate = .ok ()) (requester : ρ) (memory : μ)
    (happenings : List (Happening SecureEvent ρ μ)) :
    SecureModule.build config = .ok (SecureModule.fresh config) ∧
    Gives Overflow (happenings.foldlM live (blank (SecureModule.fresh config) requester memory))
      fun diary =>
        Throughout Episode.Disciplined diary.episodes ∧
        (RequestSink.Honest μ → ∀ episode ∈ diary.episodes, ∀ packet back,
          (packet, .rejected back) ∈ episode.requestOffers → back = packet) ∧
        (ResponseSink.Honest ρ → ∀ episode ∈ diary.episodes, ∀ packet back,
          (packet, .rejected back) ∈ episode.responseOffers → back = packet) := by
  refine ⟨SecureModule.build_eq_ok valid, ?_⟩
  have keeps : ∀ past episode gate, Episode.Blocks ρ μ past episode.component.gate →
      episode.Leaves ρ μ gate → Episode.Blocks ρ μ (past ++ [episode]) gate :=
    fun _ _ _ blocks leaves => blocks.concat leaves
  exact (module_keeps valid keeps (Episode.blocks_empty ρ μ _ _) requester memory happenings).mono
    fun _ blocks => ⟨blocks.disciplined, blocks.honestMemory, blocks.honestRequester⟩

/-- Memory is offered the first request twice, at an edge and when it asks. The requester is offered
the first response at two edges. -/
theorem refused_peers_ask_single_places :
    SecureModuleConfig.validate .singlePlaces = .ok () ∧
    SecureModule.build .singlePlaces = .ok (SecureModule.fresh .singlePlaces) ∧
    Yields (singlePlaceHappenings.foldlM live singlePlaces) fun diary =>
      (Throughout Episode.Disciplined diary.episodes ∧
        (RequestSink.Honest ScriptedMemory → ∀ episode ∈ diary.episodes, ∀ packet back,
          (packet, .rejected back) ∈ episode.requestOffers → back = packet) ∧
        (ResponseSink.Honest ScriptedRequester → ∀ episode ∈ diary.episodes, ∀ packet back,
          (packet, .rejected back) ∈ episode.responseOffers → back = packet)) ∧
      (diary.episodes.flatMap Episode.requestOffers,
          diary.episodes.flatMap Episode.responseOffers) =
        ([(.read 0 0 0, .rejected (.read 0 0 0)), (.read 0 0 0, .accepted)],
          [(.read 8 0 0, .rejected (.read 8 0 0)), (.read 8 0 0, .accepted)]) := by
  obtain ⟨built, disciplined⟩ := refused_peers_ask .singlePlaces rfl _ _ singlePlaceHappenings
  refine ⟨rfl, built, (disciplined.and_of_map ?_).yields_of_isOk ?_⟩ <;> decide +kernel

end Diary

end GatedMemory
