import TelemetryRelay.Proofs.Record.Requests

namespace TelemetryRelay.Builder

/-- The parts that were accepted since the last measurement, and whether they were completed. -/
structure Account where
  parts : Option Point := none
  complete : Bool := false

namespace Account

/-- The account after a call that was accepted while the clock showed `now`. -/
def accept (a : Account) (now : Int64) : Call → Account
  | .reset => {}
  | .setMeasurement name =>
    { parts := some { measurement := name, tags := [], fields := [], timestamp := none } }
  | .finalize => { parts := a.parts.map fun p => Call.finalize.note now p, complete := true }
  | call => { a with parts := a.parts.map fun p => call.note now p }

/-- The account after a call and its answer. -/
def enter {α : Type} (a : Account) (now : Int64) (call : Call) : Except RecordError α → Account
  | .ok _ => a.accept now call
  | .error e => if call.drops e then {} else a

def hasMeasurement (a : Account) : Bool :=
  a.parts.isSome

def hasFields (a : Account) : Bool :=
  a.parts.any fun p => !p.fields.isEmpty

def hasTimestamp (a : Account) : Bool :=
  a.parts.any fun p => p.timestamp.isSome

/-- The text of the parts. -/
def text (a : Account) : List Char :=
  (a.parts.map Point.rendered).getD []

/-- Whether a call comes at a stage that does not admit it, whatever it would write. -/
def forbids (a : Account) : Call → Bool
  | .reset => false
  | .setMeasurement _ => a.complete
  | .addTag _ _ => !a.hasMeasurement || a.hasFields || a.complete
  | .addField _ _ => !a.hasMeasurement || a.hasTimestamp || a.complete
  | .setTimestamp _ | .setTimestampNow => !a.hasFields || a.hasTimestamp || a.complete
  | .finalize => a.hasMeasurement && !a.hasFields

end Account

/-- The account of a builder and of the answers that it gives to requests. -/
def account (b : Builder) (a : Account) : List (Int64 × Request) → Account
  | [] => a
  | (now, request) :: later =>
    (b.respond now request).2.account
      (a.enter now request.effect (b.respond now request).1) later

/-- Whether a call adds to a record or completes it. -/
def Call.adds : Call → Bool
  | .reset | .setMeasurement _ => false
  | _ => true

theorem Call.next_ne_blank (call : Call) (adds : call.adds = true) : call.next ≠ .blank := by
  cases call <;> simp_all [Call.adds, Call.next]

/-- Whether a phase does not admit a call. -/
def Phase.refuses (phase : Phase) : Call → Bool
  | .reset => false
  | .setMeasurement _ => phase == .sealed
  | .addTag _ _ => phase != .named
  | .addField _ _ => phase != .named && phase != .filled
  | .setTimestamp _ | .setTimestampNow => phase != .filled
  | .finalize => phase == .named

section
variable {b b' : Builder} {now : Int64} {call : Call}

theorem perform_next (h : b.perform now call = (.ok (), b')) : b'.phase = call.next := by
  cases call with
  | reset =>
    obtain ⟨_, rfl⟩ := Prod.mk.inj h
    rfl
  | setMeasurement name => exact (setMeasurement_eq_ok h).2.2
  | addTag key value => exact (addTag_eq_ok h).2.2.2
  | addField key value => exact (addField_eq_ok h).2.2.2.2
  | setTimestamp time => exact (setTimestamp_eq_ok h).2.2
  | setTimestampNow => exact (setTimestamp_eq_ok h).2.2
  | finalize => exact (finalize_eq_ok h).2.1

theorem orKeep_ne {x : Except RecordError Builder} {e : RecordError} (other : e ≠ .bufferFull)
    (full : ∀ e, x = .error e → e = .bufferFull) : (b.orKeep x).1 ≠ .error e := fun refused =>
  other (full e (orKeep_eq_error (Prod.ext refused rfl)).1)

theorem write_ne {text : String} {phase : Phase} {e : RecordError} (other : e ≠ .bufferFull) :
    (b.orKeep ((b'.append text).map ({ · with phase }))).1 ≠ .error e :=
  orKeep_ne other fun _ failed => append_eq_error (map_eq_error_iff.mp failed)

theorem setTimestamp_invalidState_iff {time : Int64} :
    (b.setTimestamp time).1 = .error .invalidState ↔ b.phase ≠ .filled := by
  unfold setTimestamp
  split
  next late => simpa using late
  next filled => simpa [write_ne] using filled

theorem finalize_of_filled (filled : b.phase = .filled) :
    (b.finalize now).1 = (b.setTimestamp now).1 := by
  have valid : b.validate = .ok () := by simp [validate, hasMeasurement, hasFields, filled]
  have unsealed : b.isSealed = false := by simp [isSealed, filled]
  have untimed : b.hasTimestamp = false := by simp [hasTimestamp, filled]
  simp only [finalize, unsealed, valid, untimed, Bool.false_eq_true, ↓reduceIte]
  split
  next refused => rw [refused]
  next stamped => rw [stamped]

theorem finalize_invalidState_iff :
    (b.finalize now).1 = .error .invalidState ↔ b.phase = .named := by
  cases phase : b.phase with
  | filled => simp [finalize_of_filled phase, setTimestamp_invalidState_iff, phase]
  | _ => simp [finalize, isSealed, validate, hasMeasurement, hasFields, hasTimestamp, phase]

theorem finalize_invalidMeasurement_iff :
    (b.finalize now).1 = .error .invalidMeasurement ↔ b.phase = .blank := by
  cases phase : b.phase with
  | filled => simp [finalize_of_filled phase, setTimestamp, phase, write_ne]
  | _ => simp [finalize, isSealed, validate, hasMeasurement, hasFields, hasTimestamp, phase]

/-- A call is refused for its stage exactly if the phase does not admit it, whatever it would
write. -/
theorem perform_invalidState_iff :
    (b.perform now call).1 = .error .invalidState ↔ b.phase.refuses call = true := by
  cases call with
  | reset => simp [perform, Phase.refuses]
  | setMeasurement name =>
    rw [perform, setMeasurement]
    split
    next complete => simpa [Phase.refuses, isSealed] using complete
    next open_ =>
      split
      next => simpa [Phase.refuses, isSealed] using open_
      next => simpa [Phase.refuses, isSealed, write_ne] using open_
  | addTag key value =>
    rw [perform, addTag]
    split
    next late => simpa [Phase.refuses] using late
    next named =>
      split
      next => simpa [Phase.refuses] using named
      next =>
        have written :
            (b.orKeep (b.append ("," ++ key ++ "=" ++ value))).1 ≠ .error .invalidState :=
          orKeep_ne (by simp) fun _ => append_eq_error
        simpa [Phase.refuses, written] using named
  | addField key value =>
    rw [perform, addField]
    split
    next late => simpa [Phase.refuses] using late
    next early =>
      split
      next => simpa [Phase.refuses] using early
      next =>
        split
        next => simpa [Phase.refuses] using early
        next => simpa [Phase.refuses, write_ne] using early
  | setTimestamp time => simp [perform, setTimestamp_invalidState_iff, Phase.refuses]
  | setTimestampNow => simp [perform, setTimestamp_invalidState_iff, Phase.refuses]
  | finalize => simp [perform, finalize_invalidState_iff, Phase.refuses]

theorem finalize_sealed (complete : b.isSealed = true) : b.finalize now = (.ok (), b) := by
  simp [finalize, complete]

/-- A complete record stays as it is until the builder is reset. -/
theorem perform_sealed (complete : b.isSealed = true) (kept : call ≠ .reset) :
    (b.perform now call).2 = b := by
  have phase : b.phase = .sealed := by simpa [isSealed] using complete
  by_cases completing : call = .finalize
  · rw [completing, perform, finalize_sealed complete]
  · have refused : (b.perform now call).1 = .error .invalidState := by
      rw [perform_invalidState_iff, phase]
      cases call <;> simp_all [Phase.refuses]
    have same := perform_eq_error (Prod.ext refused rfl)
    rwa [if_neg (by cases call <;> simp [Call.drops])] at same

theorem after_sealed (complete : b.isSealed = true) {later : List (Int64 × Request)}
    (kept : ∀ entry ∈ later, entry.2 ≠ .call .reset) : b.after later = b := by
  induction later with
  | nil => rfl
  | cons entry later ih =>
    obtain ⟨first, others⟩ := List.forall_mem_cons.mp kept
    have still : (b.respond entry.1 entry.2).2 = b := by
      rw [respond_snd]
      refine perform_sealed complete fun reset => first ?_
      cases request : entry.2 with
      | call made => rw [request] at reset; rw [← reset, Request.effect]
      | copy => rw [request] at reset; contradiction
    rw [after, List.foldl_cons, still]
    exact ih others

end

/-- An account says what a builder holds. -/
structure Account.Describes (a : Account) (b : Builder) : Prop where
  blank : a.parts = none → b.Blank
  begun : ∀ p, a.parts = some p → b.Drafted p ∧ b.phase ≠ .blank
  complete : a.complete = b.isSealed

namespace Account.Describes
variable {a : Account} {b b' : Builder} {now : Int64} {call : Call}

theorem text_eq (h : a.Describes b) : b.text.toList = a.text := by
  cases parts : a.parts with
  | none => simp [Account.text, parts, (h.blank parts).2]
  | some p => simp [Account.text, parts, (h.begun p parts).1.text]

theorem hasMeasurement_eq (h : a.Describes b) : b.hasMeasurement = a.hasMeasurement := by
  cases parts : a.parts with
  | none => simp [Account.hasMeasurement, Builder.hasMeasurement, parts, (h.blank parts).1]
  | some p => simp [Account.hasMeasurement, Builder.hasMeasurement, parts, (h.begun p parts).2]

theorem hasFields_eq (h : a.Describes b) : b.hasFields = a.hasFields := by
  cases parts : a.parts with
  | none => simp [Account.hasFields, Builder.hasFields, parts, (h.blank parts).1]
  | some p =>
    have unfilled := (h.begun p parts).1.unfilled
    cases filled : b.hasFields <;> simp_all [Account.hasFields]

theorem hasTimestamp_eq (h : a.Describes b) : b.hasTimestamp = a.hasTimestamp := by
  cases parts : a.parts with
  | none => simp [Account.hasTimestamp, Builder.hasTimestamp, parts, (h.blank parts).1]
  | some p =>
    have untimed := (h.begun p parts).1.untimed
    cases timed : b.hasTimestamp <;> simp_all [Account.hasTimestamp, Option.isSome_iff_ne_none]

theorem forbids_eq (h : a.Describes b) (call : Call) : a.forbids call = b.phase.refuses call := by
  -- Both sides are determined by the phase.
  cases call <;>
    simp only [forbids, Phase.refuses, h.complete, ← h.hasMeasurement_eq, ← h.hasFields_eq,
      ← h.hasTimestamp_eq, isSealed, Builder.hasMeasurement, Builder.hasFields,
      Builder.hasTimestamp] <;>
    cases b.phase <;> rfl

theorem of_blank (blank : b.Blank) : ({} : Account).Describes b where
  blank _ := blank
  begun _ parts := by simp at parts
  complete := by simp [isSealed, blank.1]

/-- A call that adds to a record or completes it. -/
theorem extend (h : a.Describes b) (done : b.perform now call = (.ok (), b'))
    (begun : b.phase ≠ .blank) (adds : call.adds = true)
    (parts_eq : (a.accept now call).parts = a.parts.map fun p => call.note now p)
    (complete_eq : (a.accept now call).complete = (call.next == .sealed)) :
    (a.accept now call).Describes b' := by
  have phase := perform_next done
  constructor
  · intro none_
    rw [parts_eq] at none_
    exact absurd (h.blank (Option.map_eq_none_iff.mp none_)).1 begun
  · intro p parts
    rw [parts_eq] at parts
    obtain ⟨before, known, rfl⟩ := Option.map_eq_some_iff.mp parts
    refine ⟨(perform_eq_ok (.inr (h.begun before known).1) done).resolve_left fun blank => ?_, ?_⟩
    · exact call.next_ne_blank adds (phase.symm.trans blank.1)
    · rw [phase]
      exact call.next_ne_blank adds
  · rw [complete_eq, isSealed, phase]

theorem accept (h : a.Describes b) (done : b.perform now call = (.ok (), b')) :
    (a.accept now call).Describes b' := by
  have complete := h.complete
  rw [isSealed] at complete
  cases call with
  | reset =>
    obtain ⟨_, rfl⟩ := Prod.mk.inj done
    exact of_blank ⟨rfl, rfl⟩
  | setMeasurement name =>
    have phase := perform_next done
    constructor
    · intro none_
      contradiction
    · intro p parts
      rw [← Option.some.inj parts]
      exact ⟨drafted_setMeasurement done, by simp [phase, Call.next]⟩
    · simp [isSealed, phase, Call.next, Account.accept]
  | addTag key value =>
    have phase := (addTag_eq_ok done).1
    exact h.extend done (by simp [phase]) rfl rfl (complete.trans (by rw [phase]; rfl))
  | addField key value =>
    rcases (addField_eq_ok done).1 with phase | phase <;>
      exact h.extend done (by simp [phase]) rfl rfl (complete.trans (by rw [phase]; rfl))
  | setTimestamp time =>
    have phase := (setTimestamp_eq_ok done).1
    exact h.extend done (by simp [phase]) rfl rfl (complete.trans (by rw [phase]; rfl))
  | setTimestampNow =>
    have phase := (setTimestamp_eq_ok done).1
    exact h.extend done (by simp [phase]) rfl rfl (complete.trans (by rw [phase]; rfl))
  | finalize =>
    have filled := (finalize_eq_ok done).1
    exact h.extend done (fun blank => by simp [Builder.hasFields, blank] at filled) rfl rfl rfl

theorem enter (h : a.Describes b) (now : Int64) (request : Request) :
    (a.enter now request.effect (b.respond now request).1).Describes
      (b.respond now request).2 := by
  rcases reply : b.respond now request with ⟨e | record, b'⟩
  · have kept := perform_eq_error (respond_eq_error reply)
    rw [Account.enter, kept]
    split
    next => exact of_blank ⟨rfl, rfl⟩
    next => exact h
  · exact h.accept (respond_eq_ok reply)

theorem account (h : a.Describes b) (requests : List (Int64 × Request)) :
    (b.account a requests).Describes (b.after requests) := by
  induction requests generalizing a b with
  | nil => exact h
  | cons entry later ih => exact ih (h.enter entry.1 entry.2)

end Account.Describes

/-- A builder follows the stages of a record. After any requests its text is that of the parts that
were accepted since the last measurement, unless a reset or a measurement for which there was no
room has dropped them. There is a time only with fields, fields only with a measurement, and a
complete record has its time. A call is refused for its stage exactly if the account forbids it, and
a completed record is handed out unchanged until it is reset. By `answers_flags` all of this holds
alike of a builder with a flag for each of these stages. -/
theorem requests_follow_account {capacity : Nat} {b₀ : Builder}
    (opened : withCapacity capacity = .ok b₀) (requests : List (Int64 × Request)) :
    let b := b₀.after requests
    let a := b₀.account {} requests
    b.text.toList = a.text ∧
    (b.hasMeasurement = a.hasMeasurement ∧ b.hasFields = a.hasFields ∧
      b.hasTimestamp = a.hasTimestamp ∧ b.isSealed = a.complete) ∧
    ((b.hasTimestamp = true → b.hasFields = true) ∧
      (b.hasFields = true → b.hasMeasurement = true) ∧
      (b.isSealed = true → b.hasTimestamp = true)) ∧
    (∀ now call, (b.perform now call).1 = .error .invalidState ↔ a.forbids call = true) ∧
    (∀ now, (b.finalize now).1 = .error .invalidMeasurement ↔ a.hasMeasurement = false) ∧
    ∀ now b', b.finalize now = (.ok (), b') →
      ∀ later, (∀ entry ∈ later, entry.2 ≠ .call .reset) →
        ∀ now', (b'.after later).finalize now' = (.ok (), b') ∧
          (b'.after later).copy now' = (.ok ⟨b'.text⟩, b') ∧
          (b'.after later).build now' = .ok ⟨b'.text⟩ := by
  intro b a
  have h : a.Describes b :=
    (Account.Describes.of_blank (withCapacity_blank opened)).account requests
  refine ⟨h.text_eq, ⟨h.hasMeasurement_eq, h.hasFields_eq, h.hasTimestamp_eq, h.complete.symm⟩,
    ?_, ?_, ?_, ?_⟩
  · simp only [hasTimestamp, hasFields, hasMeasurement, isSealed]
    cases b.phase <;> decide
  · intro now call
    rw [perform_invalidState_iff, h.forbids_eq]
  · intro now
    rw [finalize_invalidMeasurement_iff, ← h.hasMeasurement_eq]
    simp [hasMeasurement]
  · intro now b' done later kept now'
    have complete : b'.isSealed = true := by simp [isSealed, (finalize_eq_ok done).2.1]
    have again : b'.finalize now' = (.ok (), b') := finalize_sealed complete
    have copied : b'.copy now' = (.ok ⟨b'.text⟩, b') := by rw [copy_eq, again]; rfl
    rw [after_sealed complete kept]
    exact ⟨again, copied, congrArg Prod.fst copied⟩

/-- A record begun anew, with parts that come too early and too late. -/
def untimelyRequests : List (Int64 × Request) :=
  [(1, .call (.addTag "early" "tag")), (1, .call (.setMeasurement "old")), (2, .call .finalize),
    (2, .call (.addField "v" (.boolean true))), (3, .call (.setMeasurement "m")),
    (3, .call (.addTag "k" "v")), (4, .call (.addField "a" (.integer 1))),
    (4, .call (.addTag "late" "tag")), (5, .copy), (6, .call (.setMeasurement "n"))]

theorem untimelyRequests_follow_account :
    let b := ({ capacity := 64 } : Builder).after untimelyRequests
    let a := ({ capacity := 64 } : Builder).account {} untimelyRequests
    withCapacity 10 = .ok { capacity := 64 } ∧
      b.text = "m,k=v a=1i 5" ∧ b.text.toList = a.text ∧ a.complete = true ∧
      (∀ now call, (b.perform now call).1 = .error .invalidState ↔ a.forbids call = true) ∧
      b.finalize 6 = (.ok (), b) ∧
      (b.after untimelyRequests).build 7 = .ok ⟨"m,k=v a=1i 5"⟩ := by
  intro b a
  have opened : withCapacity 10 = .ok { capacity := 64 } := rfl
  have text : b.text = "m,k=v a=1i 5" := by decide +kernel
  have complete : b.isSealed = true := by decide +kernel
  have done : b.finalize 6 = (.ok (), b) := finalize_sealed complete
  obtain ⟨same, ⟨_, _, _, sealed_⟩, _, forbidden, _, handed⟩ :=
    requests_follow_account opened untimelyRequests
  have noReset : ∀ entry ∈ untimelyRequests, entry.2 ≠ .call .reset := by
    simp [untimelyRequests]
  exact ⟨opened, text, same, sealed_.symm.trans complete, forbidden, done,
    text ▸ (handed 6 b done untimelyRequests noReset 7).2.2⟩

end TelemetryRelay.Builder
