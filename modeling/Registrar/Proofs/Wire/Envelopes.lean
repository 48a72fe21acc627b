import Registrar.Proofs.Text.Trimming
import Registrar.Proofs.Xml.Obtaining
import Registrar.Wire.Envelope

/-!
# Envelopes as they are written

A `Frame` is what an answer says besides its status, its errors and its payload, white space
included. `Frame.refusal` writes the answer to a command that failed and `Frame.success` the answer
to one that was carried out; the texts in them are arbitrary. Main statements: `decode_refusal`, the
verdict on a refusal is the one on its first error, and `decode_success`, a payload that can be read
is obtained.
-/

namespace Registrar

/-! ## White space -/

namespace Text

open Xml

theorem isBlank_of_isSpace {c : Char} (h : isSpace c = true) : isBlank c = true := by
  have known : c = ' ' ∨ c = '\t' ∨ c = '\r' ∨ c = '\n' := by
    simpa [isSpace, or_assoc] using h
  rcases known with rfl | rfl | rfl | rfl <;> rfl

theorem dropWhile_isBlank_of_isSpace (cs : List Char) :
    (cs.dropWhile isSpace).dropWhile isBlank = cs.dropWhile isBlank := by
  induction cs with
  | nil => rfl
  | cons c cs ih =>
    by_cases space : isSpace c = true
    · rw [List.dropWhile_cons_of_pos space, ih,
        List.dropWhile_cons_of_pos (isBlank_of_isSpace space)]
    · rw [List.dropWhile_cons_of_neg space]

theorem trimChars_strip (cs : List Char) : trimChars (strip cs) = trimChars cs :=
  calc trimChars (strip cs)
    _ = trimChars (cs.dropWhile isSpace) := trimChars_dropEndWhile isBlank_of_isSpace _
    _ = trimChars cs := by rw [trimChars, dropWhile_isBlank_of_isSpace, trimChars]

theorem trim_strip (s : String) : trim (String.ofList (strip s.toList)) = trim s := by
  unfold trim
  rw [String.toList_ofList, trimChars_strip]

end Text

/-! ## Writing -/

theorem Wire.plainText_escape (s : String) : plainText (Xml.escape s.toList) = .ok s := by
  unfold plainText
  rw [Xml.unescape_escape]
  simp

/-- The name of the attribute that says of what kind an element is. -/
def Xml.Name.type : Xml.Name := .of "Type"

/-- An error without white space at the ends of its texts. -/
def ProviderError.trimmed (e : ProviderError) : ProviderError :=
  ⟨Text.trim e.code, Text.trim e.message⟩

namespace Envelope

open Xml Wire Element

/-- What an answer says besides its status, its errors and its payload. -/
structure Frame where
  gaps : Gaps
  /-- The namespace that the answer declares. -/
  space : String
  command : String
  server : String
  time : String

namespace Frame

/-- An error with its number and its text. -/
def complaint (e : ProviderError) : Element :=
  .leaf (.single (.of "Error") (.of "Number") e.code) e.message

/-- All errors of an answer. -/
def complaints (es : List ProviderError) : Element :=
  .around (.plain (.of "Errors")) (es.map complaint)

example : write .lines [] (complaints [⟨"2019166", "<x> & \"y\""⟩]) =
    r#"<Errors>
  <Error Number="2019166">&lt;x&gt; &amp; &quot;y&quot;</Error>
  </Errors>"#.toList := by decide +kernel

/-- What the answer to a command that was carried out holds. -/
def response (f : Frame) (payload : List Element) : Element :=
  .node (.single (.of "CommandResponse") .type f.command) payload

/-- The root of an answer. -/
def answer (f : Frame) (status : String) (es : List ProviderError)
    (payload : Option (List Element)) : Element :=
  .node ⟨.of "ApiResponse", [(.of "Status", status), (.of "xmlns", f.space)],
      show ["Status", "xmlns"].Nodup by decide⟩
    (complaints es :: .empty (.plain (.of "Warnings")) ::
      .leaf (.plain (.of "RequestedCommand")) f.command ::
      ((payload.map f.response).toList ++ [.leaf (.plain (.of "Server")) f.server,
        .leaf (.plain (.of "ExecutionTime")) f.time]))

/-- The answer to a command that failed. -/
def refusal (f : Frame) (es : List ProviderError) : String :=
  document f.gaps (f.answer "ERROR" es none)

/-- The answer to a command that was carried out. -/
def success (f : Frame) (payload : List Element) : String :=
  document f.gaps (f.answer "OK" [] (some payload))

end Frame

/-! ## Reading -/

theorem reads_complaint (e : ProviderError) :
    Reads entry.reader (Frame.complaint e) e.trimmed := by
  have number : (textOr ["Number"]).Gets ["Number"] [] (Frame.complaint e) e.code :=
    (Fields.gets_optionalAttribute rfl (plainText_escape e.code)).orElse ""
  have read := (number.map fun code message =>
    (⟨Text.trim code, Text.trim message⟩ : ProviderError)).reads_text
  rw [Text.trim_strip] at read
  exact read

/-- The errors of an answer are read in order. -/
theorem reads_complaints (es : List ProviderError) :
    Reads (children ["Error"] entry.reader).reader (Frame.complaints es)
      (es.map ProviderError.trimmed) := by
  have written : (Frame.complaints es).children = es.map Frame.complaint := children_around ..
  have known : ["Error"].contains (Name.of "Error").text = true := rfl
  exact Fields.reads_children written known fun e _ => ⟨rfl, reads_complaint e⟩

theorem reads_no_warning :
    Reads (children ["Warning"] entry.reader).reader (.empty (.plain (.of "Warnings"))) [] := by
  have written : (Element.empty (.plain (.of "Warnings"))).children =
      ([] : List ProviderError).map Frame.complaint := rfl
  have known : ["Warning"].contains (Name.of "Warning").text = true := rfl
  have alike : ∀ e ∈ ([] : List ProviderError), (Frame.complaint e).heading.name = .of "Warning" ∧
    Reads entry.reader (Frame.complaint e) e := nofun
  exact Fields.reads_children written known alike

theorem filter_isNamed {text : String} {es : List Element}
    (named : ∀ x ∈ es, x.heading.name.text = text) (names : List String) :
    es.filter (isNamed names) = if names.contains text then es else [] := by
  split
  case isTrue known =>
    refine List.filter_eq_self.2 fun x hx => ?_
    rw [isNamed, named x hx, known]
  case isFalse other =>
    refine List.filter_eq_nil_iff.2 fun x hx => ?_
    rwa [isNamed, named x hx]

section

variable (f : Frame) (status : String) (es : List ProviderError) (payload : Option (List Element))

/-- The parts of an answer with some names. -/
theorem filter_answer (names : List String) :
    (f.answer status es payload).children.filter (isNamed names) =
      (if names.contains "Errors" then [Frame.complaints es] else []) ++
        ([.empty (.plain (.of "Warnings")),
            .leaf (.plain (.of "RequestedCommand")) f.command].filter (isNamed names) ++
        ((if names.contains "CommandResponse" then (payload.map f.response).toList else []) ++
          [.leaf (.plain (.of "Server")) f.server,
            .leaf (.plain (.of "ExecutionTime")) f.time].filter (isNamed names))) := by
  have errors : ∀ x ∈ [Frame.complaints es], x.heading.name.text = "Errors" := by
    intro x hx
    rw [List.mem_singleton.1 hx, Frame.complaints, heading_around]
    rfl
  have responses : ∀ x ∈ (payload.map f.response).toList,
      x.heading.name.text = "CommandResponse" := by
    intro x hx
    obtain ⟨content, -, rfl⟩ := Option.map_eq_some_iff.1 (Option.mem_toList.1 hx)
    rfl
  rw [← filter_isNamed errors, ← filter_isNamed responses, ← List.filter_append,
    ← List.filter_append, ← List.filter_append]
  rfl

variable {payload}

/-- What else stands in an answer can be passed over. -/
theorem passable_answer {x : Element} (hx : x ∈ (f.answer status es payload).children) :
    x = Frame.complaints es ∨ (∃ content ∈ payload, x = f.response content) ∨ x.IsPassable := by
  replace hx : x ∈ Frame.complaints es :: .empty (.plain (.of "Warnings")) ::
      .leaf (.plain (.of "RequestedCommand")) f.command :: ((payload.map f.response).toList ++
        [.leaf (.plain (.of "Server")) f.server, .leaf (.plain (.of "ExecutionTime")) f.time]) := hx
  simp only [List.mem_cons, List.mem_append, List.not_mem_nil, or_false] at hx
  rcases hx with rfl | rfl | rfl | inside | rfl | rfl
  case inl => exact .inl rfl
  case inr.inr.inr.inl =>
    obtain ⟨content, given, rfl⟩ := Option.map_eq_some_iff.1 (Option.mem_toList.1 inside)
    exact .inr (.inl ⟨content, given, rfl⟩)
  all_goals exact .inr (.inr trivial)

theorem gets_status : (optionalAttribute ["Status"] plainText).Gets ["Status"] []
    (f.answer status es payload) (some status) :=
  Fields.gets_optionalAttribute rfl (plainText_escape status)

/-- The envelope of an answer, whatever it holds besides. -/
theorem reads_draft (tight : ∀ content ∈ payload, (f.response content).IsPassable) :
    Reads draft.reader (f.answer status es payload)
      ⟨status, some (es.map ProviderError.trimmed), some [],
        some (String.ofList (strip f.command.toList))⟩ := by
  have parts := filter_answer f status es payload
  have failed := Fields.gets_optionalChild (parts ["Errors"]) (reads_complaints es)
  have warned := Fields.gets_optionalChild (parts ["Warnings"]) reads_no_warning
  have requested := Fields.gets_optionalChild (parts ["RequestedCommand"]) (reads_text _ f.command)
  have both := ((gets_status f status es).map Draft.mk).seq failed (by decide) (by decide)
  have gets := (both.seq warned (by decide) (by decide)).seq requested (by decide) (by decide)
  refine gets.reads fun x hx other => ?_
  rcases passable_answer f status es hx with rfl | ⟨content, given, rfl⟩ | passable
  · rw [isNamed, Frame.complaints, heading_around] at other
    cases other
  · exact tight content given
  · exact passable

/-! ## Verdicts -/

/-- An answer with a good status is judged by what it says itself. -/
theorem decode_answer (tight : ∀ content ∈ payload, (f.response content).IsPassable) {code : Nat}
    (good : 200 ≤ code ∧ code < 300) :
    decode (document f.gaps (f.answer status es payload)) code =
      Draft.judge ⟨status, some (es.map ProviderError.trimmed), some [],
        some (String.ofList (strip f.command.toList))⟩
        (document f.gaps (f.answer status es payload)) := by
  have read := readDocument_document f.gaps (reads_draft f status es tight)
  have odd : ¬(code < 200 ∨ 300 ≤ code) := by omega
  unfold decode
  rw [if_neg (by omega), if_neg (by omega), if_neg (by simpa using odd), read]

end

section

variable {body : String} {warnings : Option (List ProviderError)} {command : Option String}

theorem judge_error (first : ProviderError) (later : List ProviderError) :
    Draft.judge ⟨"ERROR", some (first :: later), warnings, command⟩ body =
      .error first.classify := by
  have same : Text.trim "ERROR" = "ERROR" := by decide +kernel
  have other : Text.sameFolded "ERROR" "OK" = false := by decide +kernel
  simp [Draft.judge, same, other, Text.sameFolded_refl]

theorem judge_ok (errors : Option (List ProviderError)) :
    Draft.judge ⟨"OK", errors, warnings, command⟩ body =
      .ok ⟨command.map Text.trim, warnings.getD [], body⟩ := by
  have same : Text.trim "OK" = "OK" := by decide +kernel
  simp [Draft.judge, same, Text.sameFolded_refl]

end

variable (f : Frame)

/-- A refusal with a good status is judged by its first error. -/
theorem decode_complaints (first : ProviderError) (later : List ProviderError) {status : Nat}
    (good : 200 ≤ status ∧ status < 300) :
    decode (f.refusal (first :: later)) status = .error first.trimmed.classify := by
  refine (decode_answer f "ERROR" (first :: later) (by simp) good).trans ?_
  exact judge_error first.trimmed (later.map ProviderError.trimmed)

/-- With a good status the verdict on a refusal is the one on its first error; with any other status
it does not depend on the errors. -/
theorem decode_refusal (first : ProviderError) (later : List ProviderError) (status : Nat) :
    (200 ≤ status ∧ status < 300 →
      decode (f.refusal (first :: later)) status = .error first.trimmed.classify) ∧
    (status = 429 →
      decode (f.refusal (first :: later)) status = .error (.rateLimited "HTTP 429" none)) ∧
    (500 ≤ status → decode (f.refusal (first :: later)) status =
      .error (.transient ("HTTP " ++ Decimal.wholeText status))) ∧
    (status < 200 ∨ 300 ≤ status → status ≠ 429 → status < 500 →
      decode (f.refusal (first :: later)) status =
        .error (.fatal ("HTTP" ++ Decimal.wholeText status)
          ("unexpected HTTP status " ++ Decimal.wholeText status))) := by
  refine ⟨fun good => ?_, fun busy => ?_, fun failed => ?_, fun odd busy failed => ?_⟩
  · exact decode_complaints f first later good
  · unfold decode
    rw [if_pos busy]
  · unfold decode
    rw [if_neg (by omega), if_pos failed]
  · unfold decode
    rw [if_neg busy, if_neg (by omega), if_pos (by simpa using odd)]

theorem decode_refusal_of_two_errors :
    let f : Frame := ⟨.lines, "xml.response", "namecheap.domains.getInfo", "SERVER-TEST", "0.01"⟩
    let body := f.refusal
      [⟨" 2019166", "Domain <name>\n & all not found "⟩, ⟨"2030280", "Too many requests"⟩]
    decode body 200 = .error (.notFound "2019166" "Domain <name>\n & all not found") ∧
      decode body 429 = .error (.rateLimited "HTTP 429" none) ∧
      decode body 503 = .error (.transient "HTTP 503") ∧
      decode body 404 = .error (.fatal "HTTP404" "unexpected HTTP status 404") := by
  intro f body
  let first : ProviderError := ⟨" 2019166", "Domain <name>\n & all not found "⟩
  let later : List ProviderError := [⟨"2030280", "Too many requests"⟩]
  have verdict : first.trimmed.classify =
      .notFound "2019166" "Domain <name>\n & all not found" := by decide +kernel
  rw [← verdict]
  exact ⟨(decode_refusal f first later 200).1 (by decide),
    (decode_refusal f first later 429).2.1 rfl,
    (decode_refusal f first later 503).2.2.1 (by decide),
    (decode_refusal f first later 404).2.2.2 (by decide) (by decide) (by decide)⟩

/-- What an answer holds is obtained if it can be read. -/
theorem payload_success {α : Type} {r : Reader α} {content : List Element} {a : α}
    (reads : Reads r (f.response content) a) (command : Option String)
    (warnings : List ProviderError) :
    (⟨command, warnings, f.success content⟩ : Envelope).payload r = .ok a := by
  have single := filter_answer f "OK" [] (some content) ["CommandResponse"]
  have gets := Fields.gets_optionalChild single reads
  have whole : Reads (optionalChild ["CommandResponse"] r).reader
      (f.answer "OK" [] (some content)) (some a) := by
    refine gets.reads fun x hx other => ?_
    rcases passable_answer f "OK" [] hx with rfl | ⟨content, given, rfl⟩ | passable
    · exact trivial
    · cases other
    · exact passable
  unfold payload
  rw [Frame.success, readDocument_document f.gaps whole]

/-- The answer to a command that was carried out has its envelope. -/
theorem decode_success {content : List Element} (tight : (f.response content).IsPassable)
    {status : Nat} (good : 200 ≤ status ∧ status < 300) :
    decode (f.success content) status =
      .ok ⟨some (Text.trim f.command), [], f.success content⟩ := by
  refine (decode_answer f "OK" [] (by simpa using tight) good).trans ?_
  refine (judge_ok (some [])).trans ?_
  rw [Option.map_some, Text.trim_strip]
  rfl

theorem exists_payload_success {α : Type} {r : Reader α} {content : List Element} {a : α}
    (tight : (f.response content).IsPassable) (reads : Reads r (f.response content) a)
    {status : Nat} (good : 200 ≤ status ∧ status < 300) :
    ∃ envelope, decode (f.success content) status = .ok envelope ∧
      envelope.payload r = .ok a :=
  ⟨_, decode_success f tight good, payload_success f reads _ _⟩

end Envelope

end Registrar
