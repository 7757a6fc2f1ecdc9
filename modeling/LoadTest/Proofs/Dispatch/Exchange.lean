import LoadTest.Dispatch.Broker
import LoadTest.Proofs.Dispatch.Messages
import LoadTest.Testbed.Broker

/-!
# An exchange with a broker

The request line is read as the request, and the first line of the answer decides what comes of it.

* `Text.IsLine`              a text with one line feed, at its end
* `Dispatch.FirstLine`       the answers that have a text as their first line
* `Dispatch.readAnswer_eq`   the first line of an answer is its reply
* `Dispatch.ask_exchanges`   requests, replies and all other answers
-/

namespace LoadTest

/-! ## lines -/

namespace Text

def IsLine (text : List Char) : Prop := ∃ body, text = body ++ ['\n'] ∧ '\n' ∉ body

theorem feed_notMem_utf8 {s : String} (h : '\n' ∉ s.toList) : 0x0A ∉ utf8 s := by
  refine notMem_utf8 (by decide) fun c hc hcode => ?_
  have hfeed : c = '\n' := Char.toNat_inj.1 hcode
  exact h (hfeed ▸ hc)

end Text

theorem Json.isLine_renderLine (v : Json) : Text.IsLine (v.render ++ "\n").toList :=
  ⟨v.write, v.toList_renderLine, v.newline_notMem_write⟩

namespace Dispatch

open Text (utf8)

/-! ## answers -/

/-- The bytes whose first line is a text: the text alone, or the text with a line feed and any bytes
after it. -/
inductive FirstLine (line : String) : List UInt8 → Prop where
  | alone (hline : '\n' ∉ line.toList) (hne : line ≠ "") : FirstLine line (utf8 line)
  | ended (hline : '\n' ∉ line.toList) (rest : List UInt8) :
      FirstLine line (utf8 line ++ 0x0A :: rest)

theorem exists_firstLine {text : String} (h : text ≠ "") : ∃ line, FirstLine line (utf8 text) := by
  by_cases hfeed : '\n' ∈ text.toList
  case neg => exact ⟨text, .alone hfeed h⟩
  obtain ⟨line, rest, htext, hline⟩ := List.eq_append_cons_of_mem hfeed
  have hbytes : utf8 text = utf8 (String.ofList line) ++ 0x0A :: utf8 (String.ofList rest) := by
    have hjoin : text = String.ofList line ++ ("\n" ++ String.ofList rest) := by
      rw [← String.toList_inj, htext]
      simp
    rw [hjoin, Text.utf8_append, Text.utf8_append, Text.utf8_newline]
    rfl
  rw [hbytes]
  exact ⟨String.ofList line, .ended (by rwa [String.toList_ofList]) _⟩

section
variable {line : String} {bytes : List UInt8} (endpoint : Endpoint)

theorem readReply_newline (line : String) : readReply (line ++ "\n") = readReply line := by
  have htrim : Text.trim (line ++ "\n").toList = Text.trim line.toList := by
    rw [String.toList_append]
    exact Text.trim_concat (by decide) line.toList
  rw [readReply, readReply, htrim]

theorem readAnswer_eq (h : FirstLine line bytes) : readAnswer endpoint bytes = readReply line := by
  cases h with
  | alone hline hne =>
    have hbytes : utf8 line ≠ [] := by
      intro hnil
      have hread := Text.ofUtf8?_utf8 line
      rw [hnil] at hread
      exact hne (Option.some.inj (hread.symm.trans (Text.ofUtf8?_utf8 "")))
    rw [readAnswer, if_neg hbytes, Text.firstLine_eq_self (Text.feed_notMem_utf8 hline),
      Text.ofUtf8?_utf8]
  | ended hline rest =>
    have hbytes : utf8 line ++ 0x0A :: rest ≠ [] :=
      List.append_ne_nil_of_right_ne_nil _ (List.cons_ne_nil _ _)
    have hfirst : Text.firstLine 0x0A (utf8 line ++ 0x0A :: rest) = utf8 (line ++ "\n") := by
      rw [Text.firstLine_append (Text.feed_notMem_utf8 hline), Text.utf8_append, Text.utf8_newline]
    rw [readAnswer, if_neg hbytes, hfirst, Text.ofUtf8?_utf8]
    exact readReply_newline line

theorem readReply_of_isReply {reply : Reply} (h : reply.IsReply (Text.trim line.toList)) :
    readReply line = reply.workers := by
  rw [readReply, Reply.parse?_eq_some_iff.2 h]

theorem readReply_of_not (h : ∀ reply : Reply, ¬ reply.IsReply (Text.trim line.toList)) :
    ∃ detail, readReply line = .error (.brokerProtocol detail) := by
  have hnone : Reply.parse? (Text.trim line.toList) = none :=
    Option.eq_none_iff_forall_ne_some.2 fun reply hreply => h reply (Reply.parse?_eq_some_iff.1 hreply)
  exact ⟨_, by rw [readReply, hnone]⟩

theorem Reply.firstLine_line (reply : Reply) (rest : List UInt8) :
    FirstLine reply.toJson.render (utf8 reply.line ++ rest) := by
  have hline : '\n' ∉ reply.toJson.render.toList := by
    rw [Json.render, String.toList_ofList]
    exact reply.toJson.newline_notMem_write
  have hbytes : utf8 reply.line ++ rest = utf8 reply.toJson.render ++ 0x0A :: rest := by
    rw [Reply.line, Text.utf8_append, Text.utf8_newline, List.append_assoc]
    rfl
  rw [hbytes]
  exact .ended hline rest

end

/-! ## exchanges -/

theorem serve_line (b : Testbed.TestBroker) (launch : Testbed.Launcher) (r : Request) :
    b.serve launch r.line = b.dispatch launch r := by
  have hfirst : Text.firstLine '\n' r.line.toList = r.line.toList := by
    rw [r.toList_line]
    exact Text.firstLine_append r.toJson.newline_notMem_write []
  rw [Testbed.TestBroker.serve, hfirst, r.parse?_line]

/-- **An exchange with a broker.** Every broker that takes the connection hears the line of the
request, which is one line, and is read as that request once it is trimmed. Whatever bytes come after
the line of a reply, its workers are the result in their order, or its reason is the rejection. Any
other answer that starts with a line of text breaks the protocol, and so does a connection that
closes without an answer; nothing that follows the first line feed of an answer matters. -/
theorem ask_exchanges (endpoint : Endpoint) (patience : Duration) :
    (∀ r : Request,
      (∀ p : Peer, (∀ cause, p ≠ .refuses cause) → p.hears r = some r.line) ∧
      (∀ cause, (Peer.refuses cause).hears r = none) ∧
      Text.IsLine r.line.toList ∧ Request.parse? (Text.trim r.line.toList) = some r ∧
        ∀ (b : Testbed.TestBroker) (launch : Testbed.Launcher),
          b.serve launch r.line = b.dispatch launch r) ∧
    (∀ reply : Reply, Text.IsLine reply.line.toList) ∧
    (∀ workers rest,
      ask endpoint patience (.sends (utf8 (Reply.dispatched workers).line ++ rest)) = .ok workers) ∧
    (∀ reason rest,
      ask endpoint patience (.sends (utf8 (Reply.rejected reason).line ++ rest)) =
        .error (.brokerRejected reason)) ∧
    ask endpoint patience (.sends []) =
      .error (.brokerProtocol "connection closed without a reply") ∧
    (∀ text : String, text ≠ "" → ∃ line, FirstLine line (utf8 text)) ∧
    (∀ line bytes, FirstLine line bytes →
      (∀ reply : Reply, reply.IsReply (Text.trim line.toList) →
        ask endpoint patience (.sends bytes) = reply.workers) ∧
      ((∀ reply : Reply, ¬ reply.IsReply (Text.trim line.toList)) →
        ∃ detail, ask endpoint patience (.sends bytes) = .error (.brokerProtocol detail))) ∧
    ∀ line rest rest' : List UInt8,
      ask endpoint patience (.sends (line ++ 0x0A :: rest)) =
        ask endpoint patience (.sends (line ++ 0x0A :: rest')) := by
  have hanswer {line : String} {bytes : List UInt8} (h : FirstLine line bytes) :
      ask endpoint patience (.sends bytes) = readReply line := readAnswer_eq endpoint h
  have hreply (reply : Reply) (rest : List UInt8) :
      ask endpoint patience (.sends (utf8 reply.line ++ rest)) = reply.workers := by
    rw [hanswer (reply.firstLine_line rest), readReply_of_isReply reply.isReply_render]
  refine ⟨fun r => ⟨fun p htaken => ?_, fun _ => rfl, r.toJson.isLine_renderLine, r.parse?_line,
      fun b launch => serve_line b launch r⟩, fun reply => reply.toJson.isLine_renderLine,
    fun workers => hreply (.dispatched workers), fun reason => hreply (.rejected reason), rfl,
    fun text => exists_firstLine, fun line bytes hfirst => ⟨fun reply hline => ?_, fun hno => ?_⟩,
    fun line rest rest' => ?_⟩
  · cases p with
    | refuses cause => exact absurd rfl (htaken cause)
    | _ => rfl
  · rw [hanswer hfirst, readReply_of_isReply hline]
  · rw [hanswer hfirst]
    exact readReply_of_not hno
  · have hne (rest : List UInt8) : line ++ 0x0A :: rest ≠ [] :=
      List.append_ne_nil_of_right_ne_nil _ (List.cons_ne_nil _ _)
    show readAnswer endpoint _ = readAnswer endpoint _
    rw [readAnswer, readAnswer, if_neg (hne rest), if_neg (hne rest'),
      Text.firstLine_append_cons 0x0A line rest rest']

/-- a scenario with a line break in its name, a rejection in an array with blanks around it, and a line
that is no reply with bytes after it that are no text -/
theorem ask_exchanges_samples :
    let broker : Endpoint := ⟨"::1", 7780⟩
    let r : Request := ⟨"a\"b\n😀", ⟨[1, 2], [3], none⟩, "tcp://[::1]:7781"⟩
    Peer.silent.hears r = some r.line ∧ Request.parse? (Text.trim r.line.toList) = some r ∧
      ask broker defaultPatience (.sends (utf8 " [\"rejected\",\"full\"]\t")) =
        .error (.brokerRejected "full") ∧
      ∃ detail, ask broker defaultPatience (.sends (utf8 "noise" ++ 0x0A :: [0xFF])) =
        .error (.brokerProtocol detail) := by
  intro broker r
  obtain ⟨hrequest, -, -, -, -, -, hanswer, -⟩ := ask_exchanges broker defaultPatience
  have hrejected : FirstLine " [\"rejected\",\"full\"]\t" (utf8 " [\"rejected\",\"full\"]\t") :=
    .alone (by decide) (by decide)
  have hreply : (Reply.rejected "full").IsReply (Text.trim " [\"rejected\",\"full\"]\t".toList) :=
    Reply.parse?_eq_some_iff.1 (by decide +kernel)
  have hnoise : FirstLine "noise" (utf8 "noise" ++ 0x0A :: [0xFF]) := .ended (by decide) [0xFF]
  have hunread : Reply.parse? (Text.trim "noise".toList) = none := by decide +kernel
  have hno (reply : Reply) : ¬ reply.IsReply (Text.trim "noise".toList) := by
    rw [← Reply.parse?_eq_some_iff, hunread]
    exact nofun
  obtain ⟨hheard, -, -, hread, -⟩ := hrequest r
  have htaken : ∀ cause, Peer.silent ≠ .refuses cause := fun cause h => Peer.noConfusion h
  exact ⟨hheard .silent htaken, hread, (hanswer _ _ hrejected).1 _ hreply,
    (hanswer _ _ hnoise).2 hno⟩

end Dispatch

end LoadTest
