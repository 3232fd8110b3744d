import ChatRelay.Proofs.Service.Calls

/-!
# Programs that act for a user

A program acts for a user when every call it can make to the store is about that
user's conversations: it looks only for these, it creates no others, and it
changes only conversations that it was given or has been answered with. The
latter are what it knows, and what it knows grows with every answer
(`Program.ActsFor`).

What such a program does can be put together from its parts (`ActsFor.bind`). It
deletes nothing (`ActsFor.does`).
-/

namespace ChatRelay.Service

variable {α β : Type}

/-- The conversation that an answer tells of. -/
def Call.learned : (c : Call) → c.Answer → List Conversation
  | .createConversation .., .ok c => [c]
  | .getConversation _, .ok (some c) => [c]
  | _, _ => []

/-- The call is about the conversations of a user, where some of them are known. -/
def Call.IsFor (owner : UserId) (known : List Conversation) : Call → Prop
  | .createConversation o .. => o = owner
  | .findConversations f | .getConversation f => f.owner = some owner
  | .updateConversation u => ∃ c ∈ known, c.uid = u.uid
  | .createMessage id .. | .listMessages id => ∃ c ∈ known, c.id = id
  | .deleteConversation _ => False
  | _ => True

namespace Program

/-- All calls are allowed, and those to the store are for a user, of whom some conversations are
known. All results are as they should be for what is known in the end. -/
def ActsFor (allowed : Call → Prop) (owner : UserId) (known : List Conversation)
    (post : List Conversation → α → Prop) : Program α → Prop
  | .done a => post known a
  | .call c next =>
    allowed c ∧ c.IsFor owner known ∧
      ∀ answer, (next answer).ActsFor allowed owner (c.learned answer ++ known) post

namespace ActsFor

variable {allowed : Call → Prop} {owner : UserId} {known : List Conversation}

theorem pure {post : List Conversation → α → Prop} {a : α} (h : post known a) :
    (Pure.pure a : Program α).ActsFor allowed owner known post := h

theorem perform {c : Call} (hc : allowed c) (hfor : c.IsFor owner known) :
    (Program.perform c).ActsFor allowed owner known fun _ _ => True :=
  ⟨hc, hfor, fun _ => trivial⟩

/-- After a call, what was learned from it is known as well. -/
theorem call {c : Call} {f : c.Answer → Program α} {post : List Conversation → α → Prop}
    (hc : allowed c) (hfor : c.IsFor owner known)
    (h : ∀ answer, (f answer).ActsFor allowed owner (c.learned answer ++ known) post) :
    (Program.perform c >>= f).ActsFor allowed owner known post := ⟨hc, hfor, h⟩

/-- What was known before is still known afterwards. -/
theorem bind {mid : List Conversation → α → Prop} {post : List Conversation → β → Prop}
    {p : Program α} {f : α → Program β} (hp : p.ActsFor allowed owner known mid)
    (hf : ∀ known' a, known ⊆ known' → mid known' a → (f a).ActsFor allowed owner known' post) :
    (p >>= f).ActsFor allowed owner known post := by
  rw [bind_eq]
  induction p generalizing known with
  | done a => exact hf known a (List.Subset.refl _) hp
  | call c next ih =>
    refine ⟨hp.1, hp.2.1, fun answer => ih answer (hp.2.2 answer) fun known' a hknown => ?_⟩
    exact hf known' a (List.Subset.trans (List.subset_append_right _ _) hknown)

theorem mono {post post' : List Conversation → α → Prop} {p : Program α}
    (h : p.ActsFor allowed owner known post) (hpost : ∀ known a, post known a → post' known a) :
    p.ActsFor allowed owner known post' := by
  induction p generalizing known with
  | done a => exact hpost known a h
  | call c next ih => exact ⟨h.1, h.2.1, fun answer => ih answer (h.2.2 answer)⟩

theorem imp {allowed' : Call → Prop} {post : List Conversation → α → Prop} {p : Program α}
    (h : p.ActsFor allowed owner known post) (himp : ∀ c, allowed c → allowed' c) :
    p.ActsFor allowed' owner known post := by
  induction p generalizing known with
  | done a => exact h
  | call c next ih => exact ⟨himp c h.1, h.2.1, fun answer => ih answer (h.2.2 answer)⟩

/-- A program that acts for a user deletes nothing. -/
theorem does {post : α → Prop} {p : Program α}
    (h : p.ActsFor allowed owner known fun _ => post) :
    p.Does (fun c => allowed c ∧ ∀ f, c ≠ .deleteConversation f) post := by
  induction p generalizing known with
  | done a => exact h
  | call c next ih =>
    refine ⟨⟨h.1, ?_⟩, fun answer => ih answer (h.2.2 answer)⟩
    rintro f rfl
    exact h.2.1

end ActsFor

end Program

end ChatRelay.Service
