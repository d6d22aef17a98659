import MessageBundle.JavaClass
import MessageBundle.Proofs.SourceText.Layout

/-!
# The parts of a generated class

The text of a class is put together from parts that do not look at one another: a head,
one chunk for each resolved method, and the brace that closes the class. The writer that
lays the text out comes back to its depth behind each piece, so that what a part is laid
out as depends on nothing before it.

The head is told line by line: what stands in front of the class, the lines that open it, and
the field, the constructors and the instance that every class holds.

## Main definitions

* `Bundle.head` — the text of a class in front of its methods
* `Bundle.headerLines`, `openingLines`, `memberLines` — the lines of this text
* `Resolution.chunk` — the text of one method in its class

## Main results

* `Bundle.render_contents` — the text of a class is its head, its chunks and a brace
* `Bundle.head_eq` — the head of a class, line by line
* `Resolution.comment_prefix_chunk` — a chunk starts with an empty line and the comment on
  its annotation
* `Bundle.render_compositional` — what a class depends on, part by part, and what a change of
  some of its methods leaves as it is
-/

namespace MessageBundle

open SourceText JavaClass

/-- The text of a class in front of its methods: the header, the line that opens the class,
and what every class holds. -/
def Bundle.head (config : Config) (b : Bundle) : List Char :=
  asText (linesOf 0 (b.headerPieces config ++
      [.line s!"// @LogBundle(projectCode = {quoted (Template.escape b.projectCode)})",
        .line s!"public class {b.className config} implements {b.interfaceReference}",
        .line "\x7b"]) ++
    linesOf 1 (b.memberPieces config))

/-- The text of a method in its class, the empty line in front of it included. -/
def Resolution.chunk (config : Config) (projectCode : String) (m : Method) (r : Resolution) :
    List Char :=
  asText (linesOf 1 (.blank :: r.pieces config projectCode m))

/-- The text of a class is its head, a chunk for each of its methods, and a closing brace. -/
theorem Bundle.render_contents (config : Config) (b : Bundle) (methods : List ResolvedMethod) :
    (b.render config methods).contents.toList =
      b.head config ++
        (methods.map fun resolved =>
          resolved.resolution.chunk config b.projectCode resolved.method).flatten ++
        "\x7d\n".toList := by
  have hmethods : asText (linesOf 1 (methods.flatMap (b.methodPieces config))) =
      (methods.map fun resolved =>
        resolved.resolution.chunk config b.projectCode resolved.method).flatten := by
    rw [linesOf_flatMap, asText_flatMap]
    rfl
  have hbrace : asText [atDepth 0 "\x7d"] = "\x7d\n".toList := by decide
  have hcontents : (b.render config methods).contents =
      SourceText.render (b.pieces config methods) := rfl
  rw [hcontents, render_toList, pieces, head, ← hmethods, ← hbrace, ← asText_append,
    ← asText_append]
  simp only [linesOf_append, linesOf, Piece.lines, List.append_assoc, List.cons_append,
    List.nil_append, List.append_nil]

/-- A method starts with the comment that names its annotation. -/
theorem Resolution.exists_pieces_eq (config : Config) (projectCode : String) (m : Method)
    (r : Resolution) :
    ∃ text rest, r.pieces config projectCode m = .line ("// @" ++ text) :: rest := by
  cases r with
  | message id template =>
    have hcomment : "// @Message(id = " = "// @" ++ "Message(id = " := by decide
    simp only [pieces, hcomment, toString, String.append_assoc]
    exact ⟨_, _, rfl⟩
  | logMessage id template level =>
    have hcomment : "// @LogMessage(id = " = "// @" ++ "LogMessage(id = " := by decide
    simp only [pieces, hcomment, toString, String.append_assoc]
    exact ⟨_, _, rfl⟩
  | getLogger => exact ⟨"GetLogger", _, rfl⟩

/-- A chunk starts with an empty line and the comment that names the annotation. -/
theorem Resolution.comment_prefix_chunk (config : Config) (projectCode : String) (m : Method)
    (r : Resolution) : "\n   // @".toList <+: r.chunk config projectCode m := by
  obtain ⟨text, rest, hpieces⟩ := r.exists_pieces_eq config projectCode m
  have hne : "// @" ++ text ≠ "" := by simp
  have hline : atDepth 1 ("// @" ++ text) = "   // @" ++ text := by
    rw [atDepth, if_neg hne, ← String.append_assoc]
    rfl
  rw [chunk, hpieces, linesOf, linesOf, Piece.lines, Piece.lines, hline]
  simp only [asText_append, asText_cons, String.toList_append, List.append_assoc]
  exact ⟨_, rfl⟩

/-! ### The head, line by line -/

namespace Bundle

/-- The lines in front of a class: the header comment, the package if there is one, and the
imports of the configured types. -/
def headerLines (config : Config) (b : Bundle) : List String :=
  ["/** This class is auto generated by " ++ config.generatorName,
    "    and it inherits whatever license is declared at " ++ b.qualifiedName ++ " */",
    ""] ++
  (if b.namespaceName = "" then [] else ["package " ++ b.namespaceName ++ ";", ""]) ++
  ["import " ++ config.loggerType ++ ";",
    "import " ++ config.loggerFactory ++ ";",
    "import " ++ config.formattingTuple ++ ";",
    "import " ++ config.formatter ++ ";",
    ""]

/-- The lines that open a class. -/
def openingLines (config : Config) (b : Bundle) : List String :=
  ["// @LogBundle(projectCode = \"" ++ Template.escape b.projectCode ++ "\")",
    "public class " ++ b.className config ++ " implements " ++ b.interfaceReference,
    "\x7b"]

/-- The lines of what every class holds: the field for the logger, a constructor that takes a
logger, a constructor that asks the factory for one, and the shared instance. -/
def memberLines (config : Config) (b : Bundle) : List String :=
  let name := b.className config
  let logger := Name.simpleName config.loggerType
  let factory := Name.simpleName config.loggerFactory
  ["   private final " ++ logger ++ " logger;",
    "",
    "   public " ++ name ++ "(" ++ logger ++ " logger) \x7b",
    "      this.logger = logger;",
    "   \x7d",
    "",
    "   public " ++ name ++ "() \x7b",
    "      this(" ++ factory ++ ".getLogger(" ++ b.outputName config ++ ".class));",
    "   \x7d",
    "",
    "   public static final " ++ name ++ " INSTANCE = new " ++ name ++ "();"]

theorem linesOf_headerPieces (config : Config) (b : Bundle) :
    linesOf 0 (b.headerPieces config) = b.headerLines config := by
  rw [headerPieces, headerLines]
  -- the package has its two lines only if the bundle is in one
  by_cases hdefault : b.namespaceName = "" <;>
    simp [hdefault, linesOf, Piece.lines, Config.imports, atDepth_zero, toString]

theorem linesOf_memberPieces (config : Config) (b : Bundle) :
    linesOf 1 (b.memberPieces config) = b.memberLines config := by
  simp [memberPieces, memberLines, linesOf, Piece.lines, atDepth, indentBy, indent, loggerField,
    Config.loggerName, toString, ← String.toList_inj]

/-- The head of a class, line by line. -/
theorem head_eq (config : Config) (b : Bundle) :
    b.head config =
      asText (b.headerLines config ++ b.openingLines config ++ b.memberLines config) := by
  rw [head, linesOf_append, linesOf_headerPieces, linesOf_memberPieces]
  -- what is left are the lines that open the class, in which the code is quoted
  refine congrArg (fun lines => asText (b.headerLines config ++ lines ++ b.memberLines config)) ?_
  simp [openingLines, linesOf, Piece.lines, atDepth_zero, quoted, toString, ← String.toList_inj]

end Bundle

/-- The head of a class does not depend on the methods that its bundle declares. -/
theorem Bundle.head_with_methods (config : Config) (b : Bundle) (declared : List Method) :
    ({ b with methods := declared } : Bundle).head config = b.head config := rfl

/-- A class is its head, a chunk for each of its methods in their order, and a closing brace.
The head has the lines in front of the class, those that open it, and those of its field, its
two constructors and its instance, and it is that of every bundle with the same name,
namespace and project code; a chunk is told by the configuration, the project code and its
method alone, and starts with one empty line. So whatever some methods in a row are replaced
by, what stands before their chunks and behind them stays. -/
theorem Bundle.render_compositional (config : Config) (b : Bundle) :
    b.head config =
      asText (b.headerLines config ++ b.openingLines config ++ b.memberLines config) ∧
    (∀ declared, ({ b with methods := declared } : Bundle).head config = b.head config) ∧
    (∀ m r, "\n   // @".toList <+: Resolution.chunk config b.projectCode m r) ∧
    (∀ methods, (b.render config methods).methodCount = methods.length ∧
      (b.render config methods).contents.toList = b.head config ++
        (methods.map fun resolved =>
          resolved.resolution.chunk config b.projectCode resolved.method).flatten ++
        "\x7d\n".toList) ∧
    ∀ before after, ∃ front back, ∀ declared methods,
      (({ b with methods := declared } : Bundle).render config
        (before ++ methods ++ after)).contents.toList =
      front ++ (methods.map fun resolved =>
        resolved.resolution.chunk config b.projectCode resolved.method).flatten ++ back := by
  refine ⟨b.head_eq config, b.head_with_methods config,
    fun m r => r.comment_prefix_chunk config b.projectCode m,
    fun methods => ⟨rfl, b.render_contents config methods⟩, fun before after => ?_⟩
  let chunks (methods : List ResolvedMethod) : List Char :=
    (methods.map fun resolved =>
      resolved.resolution.chunk config b.projectCode resolved.method).flatten
  have happend (xs ys : List ResolvedMethod) : chunks (xs ++ ys) = chunks xs ++ chunks ys := by
    simp only [chunks, List.map_append, List.flatten_append]
  refine ⟨b.head config ++ chunks before, chunks after ++ "\x7d\n".toList,
    fun declared methods => ?_⟩
  rw [render_contents, head_with_methods]
  change b.head config ++ chunks (before ++ methods ++ after) ++ _ =
    b.head config ++ chunks before ++ chunks methods ++ _
  rw [happend, happend]
  simp only [List.append_assoc]

end MessageBundle
