import RemitBridge.Backend.Rpc

/-!
# What becomes of transactions

A transaction takes effect once it is included in a ledger, or it never does.  The node tells which
of the two only when it is asked in time and answers, so `invoke` can end without knowing.
-/

namespace RemitBridge

namespace Backend

open Process

variable {N : Type}

/-- The hashes of the transactions, and which of them take effect in the end. -/
structure Fate where
  hashOf : Transaction → String
  effective : String → Bool

namespace Fate

variable (F : Fate)

def lands (tx : Transaction) : Bool := F.effective (F.hashOf tx)

/-- What the node answers is true. -/
def Agrees : (q : RpcCall) → Except Failure (RpcAnswer q) → Prop
  | .sendTransaction tx, .ok sent => sent.hash = F.hashOf tx
  | .getTransaction hash, .ok (.success _) => F.effective hash = true
  | .getTransaction hash, .ok .failed => F.effective hash = false
  | _, _ => True

/-- The network reports what becomes of the transactions, if it reports it at all. -/
def Reported (net : Environment N RpcCall RpcAnswer Failure) : Prop :=
  ∀ w q o w', net.answers w q o w' → F.Agrees q o

end Fate

namespace Submission

def sent : Submission → List Transaction
  | unsent => []
  | unknown tx | refused tx | pending tx _ _ | lost tx _ | confirmed tx _ | failed tx _ => [tx]

/-- What is known of the transaction is true. -/
def Known (F : Fate) : Submission → Prop
  | pending tx hash _ | lost tx hash => hash = F.hashOf tx
  | confirmed tx hash => hash = F.hashOf tx ∧ F.effective hash = true
  | failed tx hash => hash = F.hashOf tx ∧ F.effective hash = false
  | unsent | unknown _ | refused _ => True

variable {F : Fate} {s s' : Submission} {q : RpcCall} {o : Except Failure (RpcAnswer q)}

theorem sent_next (h : s.next q o = some s') : s'.sent = s.sent ++ q.sent := by
  cases move_of_next h <;> rfl

theorem Known.next (hs : s.Known F) (h : s.next q o = some s') (ho : F.Agrees q o) :
    s'.Known F := by
  cases move_of_next h with
  | account | simulated | refused | unknown => trivial
  | accepted => exact ho
  | confirmed | failed => exact ⟨hs, ho⟩
  | notFound | lost => exact hs

end Submission

/-! ### What has taken effect -/

/-- The hashes of the transactions, and which of them have taken effect. -/
structure Archive (N : Type) where
  hashOf : Transaction → String
  applied : N → Transaction → Prop

namespace Archive

variable (A : Archive N)

/-- What has taken effect stays so, and the network reports nothing else as successful. -/
structure Faithful (net : Environment N RpcCall RpcAnswer Failure) : Prop where
  answers : ∀ w q o w' tx, net.answers w q o w' → A.applied w tx → A.applied w' tx
  evolves : ∀ w w' tx, net.evolves w w' → A.applied w tx → A.applied w' tx
  sent : ∀ w tx sent w', net.answers w (.sendTransaction tx) (.ok sent) w' → sent.hash = A.hashOf tx
  success : ∀ w tx ledger w',
    net.answers w (.getTransaction (A.hashOf tx)) (.ok (.success ledger)) w' → A.applied w' tx

end Archive

namespace Submission

variable {A : Archive N} {w w' : N} {I : Transaction → Prop} {s s' : Submission}

/-- The transaction satisfies `I`, and what is known of it is true. -/
def Backed (A : Archive N) (w : N) (I : Transaction → Prop) : Submission → Prop
  | unsent => True
  | unknown tx | refused tx | failed tx _ => I tx
  | pending tx hash _ | lost tx hash => I tx ∧ hash = A.hashOf tx
  | confirmed tx _ => I tx ∧ A.applied w tx

/-- The transaction is known to have taken effect, or has done so. -/
def Effective (A : Archive N) (w : N) : Submission → Prop
  | confirmed .. => True
  | unknown tx | refused tx | pending tx _ _ | lost tx _ => A.applied w tx
  | unsent | failed .. => False

theorem Backed.mono (h : s.Backed A w I) (hw : ∀ tx, A.applied w tx → A.applied w' tx) :
    s.Backed A w' I := by
  cases s with
  | confirmed => exact ⟨h.1, hw _ h.2⟩
  | _ => exact h

theorem Backed.next {net : Environment N RpcCall RpcAnswer Failure} (hA : A.Faithful net)
    {q : RpcCall} {o : Except Failure (RpcAnswer q)} (h : s.Backed A w I)
    (hnext : s.next q o = some s') (hq : ∀ tx ∈ q.sent, I tx) (hanswers : net.answers w q o w') :
    s'.Backed A w' I := by
  cases move_of_next hnext with
  | account | simulated => trivial
  | refused | unknown => exact hq _ (List.mem_singleton_self _)
  | accepted => exact ⟨hq _ (List.mem_singleton_self _), hA.sent _ _ _ _ hanswers⟩
  | confirmed =>
    obtain ⟨htx, rfl⟩ := h
    exact ⟨htx, hA.success _ _ _ _ hanswers⟩
  | failed => exact h.1
  | notFound | lost => exact h

theorem Backed.applied (h : s.Backed A w I) (hs : s.Effective A w) :
    ∃ tx, I tx ∧ A.applied w tx := by
  cases s with
  | unsent | failed => exact absurd hs id
  | confirmed tx hash => exact ⟨tx, h⟩
  | unknown tx | refused tx => exact ⟨tx, h, hs⟩
  | pending tx | lost tx => exact ⟨tx, h.1, hs⟩

end Submission

end Backend

end RemitBridge
