import TunnelCore.Gateway.Post

namespace TunnelCore.Gateway

section

variable (qt : Qt) (enc : EncryptedRequestData) (net : Network)

def Agree (a b : ErrorCode × Bytes) : Prop := a.1 = b.1 ∧ (a.1 = .noError → a.2 = b.2)

instance (a b : ErrorCode × Bytes) : Decidable (Agree a b) := inferInstanceAs (Decidable (_ ∧ _))

end

variable {qt : Qt} {enc : EncryptedRequestData} {net : Network}

theorem Agree.trans {a b c : ErrorCode × Bytes} (h : Agree a b) (h' : Agree b c) : Agree a c :=
  ⟨h.1.trans h'.1, fun hok => (h.2 hok).trans (h'.2 (h.1 ▸ hok))⟩

theorem Agree.symm {a b : ErrorCode × Bytes} (h : Agree a b) : Agree b a := ⟨h.1.symm, fun hok => (h.2 (h.1 ▸ hok)).symm⟩

section Bypass

variable {proxyUrl : String} {responseBody : Bytes}

end Bypass

section Samples

end Samples

end TunnelCore.Gateway
