import BlazorBridge.Extraction
import BlazorBridge.Options
import BlazorBridge.Parameter.Default
import BlazorBridge.Path

/-!
# Wrapper classes

The C# class for a module: a constructor that takes the runtime and the path of the module, and one
asynchronous method for each function, which calls the function through the runtime. The class is a
list of lines.
-/

namespace BlazorBridge.Wrapper

/-! ## Text in comments -/

/-- One character of a documentation comment, with the marks of the comment's own tags replaced. -/
def escapeMarkup (t : Text) : Text :=
  t.flatMap fun c =>
    if c = '&' then "&amp;".toList
    else if c = '<' then "&lt;".toList
    else if c = '>' then "&gt;".toList
    else [c]

/-! ## Methods -/

/-- The name of the method for a function. -/
def methodName (f : JsFunction) : Text := Naming.pascalCase f.name ++ "Async".toList

/-- The type of a method's result, without the task around it; void if there is none. -/
def methodResult (f : JsFunction) : Text :=
  let result := WrapperType.unwrap f.result
  if WrapperType.isVoidLike result then WrapperType.void else result

/-- A type that also admits null. -/
def nullable (type : Text) : Text := if Text.endsWith ['?'] type then type else type ++ ['?']

/-- A parameter in a method's head. One that may be left out is null unless it has a default. -/
def parameter (p : Parameter) : Text :=
  match p.presence with
  | .required => p.type ++ [' '] ++ Naming.escape p.name
  | .optional default =>
    nullable p.type ++ [' '] ++ Naming.escape p.name ++ " = ".toList ++
      (default.map Default.render).getD "null".toList

/-- A line one level in. -/
def indent (line : Text) : Text := "    ".toList ++ line

/-- The lines of a method's summary; none without documentation. -/
def summary (documentation : List Text) : List Text :=
  if documentation.isEmpty then []
  else
    ["/// <summary>".toList] ++ documentation.map (fun line => "/// ".toList ++ escapeMarkup line) ++
      ["/// </summary>".toList]

/-- The documentation line of a parameter. -/
def parameterNote (p : Parameter) : Text :=
  "/// <param name=\"".toList ++ p.name ++ "\">JavaScript parameter of type ".toList ++
    escapeMarkup p.type ++ "</param>".toList

/-- The line that calls the function. -/
def call (f : JsFunction) : Text :=
  let arguments := f.parameters.flatMap fun p => ", ".toList ++ Naming.escape p.name
  let target := "(\"".toList ++ f.name ++ "\", _modulePath".toList ++ arguments ++ ");".toList
  if methodResult f = WrapperType.void then "await _jsRuntime.InvokeVoidAsync".toList ++ target
  else
    "return await _jsRuntime.InvokeAsync<".toList ++ methodResult f ++ ">".toList ++ target

/-- The head of a method. -/
def head (f : JsFunction) : Text :=
  let result := methodResult f
  "public async ".toList ++
    (if result = WrapperType.void then WrapperType.task else WrapperType.taskOf result) ++
    [' '] ++ methodName f ++ "(".toList ++ Text.join ", ".toList (f.parameters.map parameter) ++
    ")".toList

/-- The lines of a method, one level out. -/
def method (f : JsFunction) : List Text :=
  summary f.documentation ++ f.parameters.map parameterNote ++
    [head f, "\x7b".toList, indent (call f), "\x7d".toList]

/-! ## Classes -/

/-- The name of the class for a module. -/
def className (options : Options) (m : JsModule) : Text := m.name ++ options.classSuffix

/-- The lines of a class before its methods. -/
def opening (options : Options) (m : JsModule) : List Text :=
  let title := className options m
  ["using Microsoft.JSInterop;".toList,
   [],
   "namespace ".toList ++ options.space ++ ";".toList,
   [],
   "public class ".toList ++ title,
   "\x7b".toList,
   indent "private readonly IJSRuntime _jsRuntime;".toList,
   indent "private readonly string _modulePath;".toList,
   [],
   indent ("public ".toList ++ title ++ "(IJSRuntime jsRuntime, string modulePath = \"./".toList ++
     (Path.ofText m.source).name ++ "\")".toList),
   indent "\x7b".toList,
   indent (indent "_jsRuntime = jsRuntime;".toList),
   indent (indent "_modulePath = modulePath;".toList),
   indent "\x7d".toList,
   []]

/-- The lines of the class for a module. A blank line follows each method. -/
def lines (options : Options) (m : JsModule) : List Text :=
  opening options m ++ m.functions.flatMap (fun f => (method f).map indent ++ [[]]) ++
    ["\x7d".toList, []]

/-- The class for a module. -/
def render (options : Options) (m : JsModule) : Text := Text.join ['\n'] (lines options m)

end BlazorBridge.Wrapper
