import SerialConsole.Proofs.Session.Download
import SerialConsole.Proofs.Transport.Answered
import SerialConsole.Proofs.Transport.Upload
import SerialConsole.Rehearsal.Basic

/-!
# Files there and back

`fetch_put`: what a transport types to send a file is what a transport that receives it needs to
see, so a file that is sent and received again is the file that was sent.
-/

namespace SerialConsole.Transport

open Command (join)
open Host (Obliging)
open Session (Spaced lineBytes uploadBytes)

variable {σ ρ : Type} [Host σ] [Host ρ]

theorem fetch_spaced {remote file : String} {s : On (Desk σ) Transport}
    {after : On (Desk σ) Session}
    {noise answer texts : List (List Char)} {echo : List Char} {chunks : List Bytes}
    (answered : Answered (fun m => Command.print remote.toList m ++ ['\n'])
      s.subject.settings.timeouts.transfer s (noise ++ echo :: answer) after)
    (free : ∀ line ∈ noise, ¬ (nextMark s).text <:+: line)
    (echoes : (nextMark s).classify echo = .echo) (spaced : Spaced texts answer)
    (pieces : texts = chunks.map Base64.encode) :
    ∃ s', fetch remote file s = .ok chunks.flatten.length s' ∧ s'.subject.phase = .ready ∧
      s'.world.host.files file = some chunks.flatten := by
  obtain ⟨session, hsession, answer⟩ := answered.held
  let marked : Desk σ := ((Host.freshMark : StateM (Desk σ) Mark).run s.world.host).2
  obtain ⟨raw, files, received, content⟩ := Session.download_spaced answer free echoes spaced pieces
    (marked.files_put file []) []
  have marks : Host.freshMark.run s.world.host = (nextMark s, marked) := rfl
  have made : (Host.createFile file).run marked = (.ok (), marked.put file []) := rfl
  obtain ⟨act, begun, hact, hbegun, ran⟩ :=
    fetch_of_ready remote answered.ready hsession marks made
  have same : begun = Session.onDesk [] (marked.put file []).files (handed session s) := hbegun
  rw [← hact] at received
  refine ⟨resumed s.subject (Session.onDesk raw files after), ?_, rfl, content⟩
  rw [ran, same, Op.outcome, Op.final, received]
  exact finish_ok _ _

/-- A transport on whose session a file with some contents can be sent: it is ready, and its host
has the file and can read it to its end, in whatever portions. -/
structure CanSend (file : String) (content : Bytes) (s : On (Recorded ρ) Transport) (m : Mark) :
    Prop where
  ready : s.subject.phase = .ready
  held : ∃ session terminal, s.subject.session = some session ∧ session.terminal = some terminal
  offered : ∃ source opened, Offers file s m source opened ∧ source.failure? = none ∧
    source.delivered = content

/-- Texts that hold a file: the lines that it is sent as, or its written form cut between groups. -/
def Holds (content : Bytes) (texts : List (List Char)) : Prop :=
  (∃ size, texts = Chunker.dataLines size content) ∨
    (texts.flatten = Base64.encode content ∧ ∀ text ∈ texts, 4 ∣ text.length)

theorem Holds.exists_chunks {content : Bytes} {texts : List (List Char)} (h : Holds content texts) :
    ∃ chunks : List Bytes, chunks.flatten = content ∧ texts = chunks.map Base64.encode := by
  obtain ⟨size, lines⟩ | ⟨whole, groups⟩ := h
  · exact ⟨_, flatten_chunks (by omega) content, lines⟩
  · exact Base64.exists_cut whole groups

/-- A file that is sent is typed as lines between the typed command and an empty line with the end
of input, whatever the console prints, if the host takes what is typed or the operation succeeds.
And when a console prints noise, then the mark inside other text, then these lines, or the written
form of the file in other lines, with blanks around them and blank lines between them, and then the
mark and the prompt, the file is received as it was sent. -/
theorem fetch_put (content : Bytes) :
    (∀ (file remote : String) (s : On (Recorded ρ) Transport) (m : Mark),
      CanSend file content s m → (Obliging ρ ∨ ∃ s', put file remote s = .ok () s') →
        ((put file remote).final s).world.host.typed = s.world.host.typed ++
          (lineBytes (Command.receive remote.toList m) ::
            (Chunker.dataLines s.subject.settings.transfer.chunkSize content).map lineBytes ++
              [lineBytes [], [4]])) ∧
    ∀ (remote file : String) (s : On (Desk σ) Transport) (after : On (Desk σ) Session)
      (noise texts answer : List (List Char)) (echo : List Char),
      Answered (fun m => Command.print remote.toList m ++ ['\n'])
          s.subject.settings.timeouts.transfer s (noise ++ echo :: answer) after →
        (∀ line ∈ noise, ¬ (nextMark s).text <:+: line) →
        (nextMark s).text <:+: echo → (nextMark s).terminates echo = false →
        Holds content texts → Spaced texts answer →
        ∃ s', fetch remote file s = .ok content.length s' ∧ s'.subject.phase = .ready ∧
          s'.world.host.files file = some content := by
  constructor
  · intro file remote s m able taken
    obtain ⟨session, terminal, held, isOpen⟩ := able.held
    obtain ⟨source, opened, offered, sound, rfl⟩ := able.offered
    exact typed_put taken able.ready held isOpen offered sound
  · intro remote file s after noise texts answer echo answered free held going holds spaced
    have echoes := Mark.classify_eq_echo.mpr ⟨held, going⟩
    obtain ⟨chunks, rfl, pieces⟩ := holds.exists_chunks
    exact fetch_spaced answered free echoes spaced pieces

/-- The bytes of a greeting. -/
def greeting : Bytes := Text.encode "hello".toList

/-- A transport that can send the greeting. -/
def sender : On (Recorded (Desk Rehearsal)) Transport :=
  ⟨printed [], { host := { host := { console := {}, files := fun _ => some greeting } } }⟩

/-- A console that has printed noise, the typed command and the greeting in two pieces. -/
def pieceLines (m : Mark) : List (List Char) :=
  ["login: ok".toList] ++ ("# base64 'f' && printf ".toList ++ m.text) ::
    [" aGVsbA==".toList, [], "bw==\t".toList]

/-- A transport whose console has printed them already. -/
def receiver : On (Desk Rehearsal) Transport :=
  ⟨printed (join (pieceLines (Rehearsal.nthMark 0) ++ [(Rehearsal.nthMark 0).text])),
    { host := { console := {} } }⟩

theorem fetch_put_greeting :
    ((put "f" "g").final sender).world.host.typed =
        [lineBytes (Command.receive "g".toList (Rehearsal.nthMark 0)),
          lineBytes "aGVsbG8=".toList, lineBytes [], [4]] ∧
      ∃ s', fetch "g" "copy" receiver = .ok 5 s' ∧ s'.subject.phase = .ready ∧
        s'.world.host.files "copy" = some greeting := by
  obtain ⟨typed, fetched⟩ := fetch_put (ρ := Desk Rehearsal) (σ := Rehearsal) greeting
  constructor
  · have able : CanSend "f" greeting sender (Rehearsal.nthMark 0) :=
      ⟨rfl, ⟨_, { process := 0 }, rfl, rfl⟩, Source.ofBytes greeting, _, ⟨_, _, rfl, rfl, rfl⟩,
        rfl, by decide⟩
    have cut : Chunker.dataLines sender.subject.settings.transfer.chunkSize greeting =
        ["aGVsbG8=".toList] := by decide +kernel
    have all := typed "f" "g" sender _ able (.inl fun _ _ _ => rfl)
    rw [cut] at all
    exact all
  · obtain ⟨after, answered⟩ : ∃ after, Answered (fun m => Command.print "g".toList m ++ ['\n'])
        300000 receiver (pieceLines (Rehearsal.nthMark 0)) after := by
      have inner : ∀ line ∈ pieceLines (Rehearsal.nthMark 0), '\n' ∉ line := by decide +kernel
      exact answered_of_printed (fun _ _ _ => rfl) _ _
        ({ host := { console := {} } } : World (Desk Rehearsal)) rfl inner
    have spaced : Spaced (Chunker.dataLines 4 greeting)
        [" aGVsbA==".toList, [], "bw==\t".toList] := by
      have cut : Chunker.dataLines 4 greeting = ["aGVsbA==".toList, "bw==".toList] := by
        decide +kernel
      have empty : Text.Blank [] := List.forall_mem_nil _
      have space : Text.Blank [' '] := List.forall_mem_singleton.mpr rfl
      have tab : Text.Blank ['\t'] := List.forall_mem_singleton.mpr rfl
      rw [cut]
      exact @Spaced.text [' '] _ [] _ _ space empty
        (.blank empty (@Spaced.text [] _ ['\t'] _ _ empty tab .nil))
    refine fetched "g" "copy" receiver after ["login: ok".toList] _ _ _ answered ?_ ?_ ?_
      (.inl ⟨4, rfl⟩) spaced
    all_goals decide +kernel

end SerialConsole.Transport
