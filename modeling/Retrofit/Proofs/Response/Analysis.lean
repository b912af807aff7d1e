import Retrofit.Proofs.Response.Fence
import Retrofit.Proofs.Run.Attribution

/-! The response of an analysis against its payload. All that is read is read from the payload; only what a
failure quotes is taken from the response itself. -/
namespace Retrofit

/-- The same value, or failures of the same kind and message, whatever text they quote. -/
inductive Agree {α : Type} : Except Failure α → Except Failure α → Prop
  | same (x : α) : Agree (.ok x) (.ok x)
  | alike (f g : Failure) (kind : f.kind = g.kind) (message : f.message = g.message) :
      Agree (.error f) (.error g)

namespace Response

variable {raw text : String}

/-- No JSON value begins with a fence. -/
theorem valueWithin_fence (limit depth : Nat) (rest : List Char) :
    ∃ f, Json.valueWithin limit depth (fence ++ rest) = .error f := by
  cases depth <;> exact ⟨_, rfl⟩

theorem not_fence_of_parsed {v : Json.Value} (parsed : Json.parse text = .ok v) :
    ¬ fence <+: text.toList := by
  rintro ⟨rest, front⟩
  obtain ⟨f, failed⟩ := valueWithin_fence text.toList.length Json.deepest rest
  rw [front] at failed
  rw [Json.parse] at parsed
  simp only [failed, bind, Except.bind] at parsed
  cases parsed

theorem unfenced_trimmed (raw : String) : Chars.Trimmed (unfenced raw).toList := by
  rw [unfenced, String.toList_ofList]
  exact unfencedChars_trimmed raw.toList

/-- Whatever holds the payload of some response has that payload too. -/
theorem payload_of_wraps {raw' : String} (ok : payload raw = .ok text) (wraps : Wraps text raw') :
    payload raw' = .ok text := by
  obtain ⟨same, v, parsed⟩ := payload_ok_iff.mp ok
  have trimmed : Chars.Trimmed text.toList := same ▸ unfenced_trimmed raw
  exact payload_ok_iff.mpr ⟨wraps.unfenced_eq trimmed (not_fence_of_parsed parsed), v, parsed⟩

end Response

namespace Project

variable {raw text : String}

theorem ofResponse_of_payload (ok : Response.payload raw = .ok text) :
    ofResponse raw = validateFrom raw text := by
  rw [ofResponse, ok]
  rfl

/-- What is quoted makes no difference to how a payload is judged. -/
theorem validateFrom_agree (raw raw' payload : String) :
    Agree (validateFrom raw payload) (validateFrom raw' payload) := by
  unfold validateFrom
  cases decode payload with
  | error f =>
    dsimp only
    split
    · exact .alike _ _ rfl rfl
    · exact .alike _ _ rfl rfl
  | ok p =>
    dsimp only
    cases p.defect? with
    | some d => exact .alike _ _ rfl rfl
    | none => exact .same p

theorem ofResponse_agrees (ok : Response.payload raw = .ok text) :
    Agree (ofResponse raw) (validate text) := by
  rw [ofResponse_of_payload ok]
  exact validateFrom_agree raw text text

/-- A payload is its own payload, and that of any response that holds it. The response that it came from is
judged as the payload is, alone or as a response, and so is any other that holds it. -/
theorem payload_stable (ok : Response.payload raw = .ok text) :
    Response.payload text = .ok text ∧
      Agree (ofResponse raw) (validate text) ∧ ofResponse text = validate text ∧
      ∀ raw', Response.Wraps text raw' →
        Response.payload raw' = .ok text ∧ Agree (ofResponse raw') (validate text) := by
  have own := Response.payload_of_wraps ok (Response.wraps_self text)
  refine ⟨own, ofResponse_agrees ok, ofResponse_of_payload own, ?_⟩
  intro raw' wraps
  have held := Response.payload_of_wraps ok wraps
  exact ⟨held, ofResponse_agrees held⟩

/-- Part of an analysis, behind a space that only Unicode knows. -/
def hollow : String := "\u00a0```json```\n\x7b\"language\":\"```\",\"modules\":[]\x7d\r\n ```"

theorem hollow_stable :
    let text := "\x7b\"language\":\"```\",\"modules\":[]\x7d"
    Response.payload hollow = .ok text ∧ Response.payload text = .ok text ∧
      Agree (ofResponse hollow) (validate text) ∧ ofResponse text = validate text ∧
      ∀ raw', Response.Wraps text raw' →
        Response.payload raw' = .ok text ∧ Agree (ofResponse raw') (validate text) := by
  have ok : Response.payload hollow = .ok "\x7b\"language\":\"```\",\"modules\":[]\x7d" := by
    decide +kernel
  exact ⟨ok, payload_stable ok⟩

/-- What a failure shows of the response that it is about. -/
structure Quotes (raw : String) (f : Failure) : Prop where
  kind : f.kind = "MalformedPayload" ∨ f.kind = "SchemaViolation"
  snippet : ∃ s, f.snippet? = some s ∧ s.toList <+: raw.toList ∧
    s.toList.length = min 500 raw.toList.length

theorem takeChars_front (n : Nat) (raw : String) :
    (Text.takeChars n raw).toList <+: raw.toList ∧
      (Text.takeChars n raw).toList.length = min n raw.toList.length := by
  rw [Text.takeChars, String.toList_ofList]
  exact ⟨List.take_prefix n raw.toList, List.length_take⟩

theorem quotes_malformedFrom (message raw : String) : Quotes raw (.malformedFrom message raw) :=
  ⟨.inl rfl, _, rfl, takeChars_front _ raw⟩

theorem quotes_schemaFrom (message raw : String) : Quotes raw (.schemaFrom message raw) :=
  ⟨.inr rfl, _, rfl, takeChars_front _ raw⟩

/-- The response of an analysis is a project that is usable, or is refused as broken text or for its form,
and then its own first characters are quoted, whatever stands between them and the payload. Without a payload
it is refused as broken text. -/
theorem ofResponse_quotes (raw : String) :
    ((∃ p, ofResponse raw = .ok p ∧ p.Usable) ∨ ∃ f, ofResponse raw = .error f ∧ Quotes raw f) ∧
      ∀ f, Response.payload raw = .error f →
        ofResponse raw = .error f ∧ f.kind = "MalformedPayload" := by
  refine ⟨?_, ?_⟩
  · cases judged : ofResponse raw with
    | ok p =>
      obtain ⟨payload, -, -, usable⟩ := ofResponse_ok judged
      exact .inl ⟨p, rfl, usable⟩
    | error f =>
      refine .inr ⟨f, rfl, ?_⟩
      obtain ⟨message, rfl | rfl⟩ := ofResponse_error judged
      · exact quotes_malformedFrom message raw
      · exact quotes_schemaFrom message raw
  · intro f failed
    obtain ⟨message, rfl⟩ := Response.payload_error failed
    refine ⟨?_, rfl⟩
    rw [ofResponse, failed]
    rfl

end Project

end Retrofit
