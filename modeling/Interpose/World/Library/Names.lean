/-! # Names of the library

What the library modules bind: the classes that are at home in a module, names for classes of
other modules, functions, and the constructs and aliases of the typing module.
-/
namespace Interpose.Library

set_option autoImplicit false

def builtinClasses : List String :=
  ["ArithmeticError", "AssertionError", "AttributeError", "BaseException", "BaseExceptionGroup",
   "BlockingIOError", "BrokenPipeError", "BufferError", "BytesWarning", "ChildProcessError",
   "ConnectionAbortedError", "ConnectionError", "ConnectionRefusedError", "ConnectionResetError",
   "DeprecationWarning", "EOFError", "EncodingWarning", "Exception", "ExceptionGroup",
   "FileExistsError", "FileNotFoundError", "FloatingPointError", "FutureWarning",
   "GeneratorExit", "ImportError", "ImportWarning", "IndentationError", "IndexError",
   "InterruptedError", "IsADirectoryError", "KeyError", "KeyboardInterrupt", "LookupError",
   "MemoryError", "ModuleNotFoundError", "NameError", "NotADirectoryError",
   "NotImplementedError", "OSError", "OverflowError", "PendingDeprecationWarning",
   "PermissionError", "ProcessLookupError", "RecursionError", "ReferenceError",
   "ResourceWarning", "RuntimeError", "RuntimeWarning", "StopAsyncIteration", "StopIteration",
   "SyntaxError", "SyntaxWarning", "SystemError", "SystemExit", "TabError", "TimeoutError",
   "TypeError", "UnboundLocalError", "UnicodeDecodeError", "UnicodeEncodeError", "UnicodeError",
   "UnicodeTranslateError", "UnicodeWarning", "UserWarning", "ValueError", "Warning",
   "ZeroDivisionError", "bool", "bytearray", "bytes", "classmethod", "complex", "dict",
   "enumerate", "filter", "float", "frozenset", "int", "list", "map", "memoryview", "object",
   "property", "range", "reversed", "set", "slice", "staticmethod", "str", "super", "tuple",
   "type", "zip"]

def builtinFunctions : List String :=
  ["__build_class__", "__import__", "abs", "aiter", "all", "anext", "any", "ascii", "bin",
   "breakpoint", "callable", "chr", "compile", "delattr", "dir", "divmod", "eval",
   "exec", "format", "getattr", "globals",
   "hasattr", "hash", "hex", "id", "input", "isinstance", "issubclass", "iter", "len", "locals",
   "max", "min", "next", "oct", "open", "ord", "pow", "print", "repr", "round", "setattr",
   "sorted", "sum", "vars"]

/-- The objects of the builtin module that are there for interactive use, and how they are shown. -/
def interactiveTexts : List (String × String) :=
  [("exit", "Use exit() or Ctrl-D (i.e. EOF) to exit"),
   ("help", "Type help() for interactive help, or help(object) for help about object."),
   ("quit", "Use quit() or Ctrl-D (i.e. EOF) to exit")]

/-- The constructs of the typing module that are not classes. -/
def typingForms : List String :=
  ["ClassVar", "Concatenate", "Final", "Literal", "LiteralString", "Never", "NoReturn",
   "NotRequired", "Optional", "Required", "Self", "TypeAlias", "TypeGuard", "Union", "Unpack"]

/-- The typing aliases, each with module and name of the runtime class it stands for. -/
def typingAliases : List (String × String × String) :=
  [("AbstractSet", "collections.abc", "Set"),
   ("AsyncContextManager", "contextlib", "AbstractAsyncContextManager"),
   ("AsyncGenerator", "collections.abc", "AsyncGenerator"),
   ("AsyncIterable", "collections.abc", "AsyncIterable"),
   ("AsyncIterator", "collections.abc", "AsyncIterator"),
   ("Awaitable", "collections.abc", "Awaitable"),
   ("ByteString", "collections.abc", "ByteString"), ("Callable", "collections.abc", "Callable"),
   ("ChainMap", "collections", "ChainMap"), ("Collection", "collections.abc", "Collection"),
   ("Container", "collections.abc", "Container"),
   ("ContextManager", "contextlib", "AbstractContextManager"),
   ("Coroutine", "collections.abc", "Coroutine"), ("Counter", "collections", "Counter"),
   ("DefaultDict", "collections", "defaultdict"), ("Deque", "collections", "deque"),
   ("Dict", "builtins", "dict"), ("FrozenSet", "builtins", "frozenset"),
   ("Generator", "collections.abc", "Generator"), ("Hashable", "collections.abc", "Hashable"),
   ("ItemsView", "collections.abc", "ItemsView"), ("Iterable", "collections.abc", "Iterable"),
   ("Iterator", "collections.abc", "Iterator"), ("KeysView", "collections.abc", "KeysView"),
   ("List", "builtins", "list"), ("Mapping", "collections.abc", "Mapping"),
   ("MappingView", "collections.abc", "MappingView"), ("Match", "re", "Match"),
   ("MutableMapping", "collections.abc", "MutableMapping"),
   ("MutableSequence", "collections.abc", "MutableSequence"),
   ("MutableSet", "collections.abc", "MutableSet"),
   ("OrderedDict", "collections", "OrderedDict"), ("Pattern", "re", "Pattern"),
   ("Reversible", "collections.abc", "Reversible"), ("Sequence", "collections.abc", "Sequence"),
   ("Set", "builtins", "set"), ("Sized", "collections.abc", "Sized"),
   ("Tuple", "builtins", "tuple"), ("Type", "builtins", "type"),
   ("ValuesView", "collections.abc", "ValuesView")]

def typingClasses : List String :=
  ["Annotated", "Any", "BinaryIO", "ForwardRef", "Generic", "IO", "NamedTupleMeta", "NewType",
   "ParamSpec", "ParamSpecArgs", "ParamSpecKwargs", "Protocol", "SupportsAbs", "SupportsBytes",
   "SupportsComplex", "SupportsFloat", "SupportsIndex", "SupportsInt", "SupportsRound", "TextIO",
   "TypeVar", "TypeVarTuple"]

def typingVariables : List String :=
  ["AnyStr", "CT_co", "KT", "T", "T_co", "T_contra", "VT", "VT_co", "V_co"]

def typingFunctions : List String :=
  ["NamedTuple", "TypedDict", "abstractmethod", "assert_never", "assert_type", "cast",
   "clear_overloads", "dataclass_transform", "final", "get_args", "get_origin", "get_overloads",
   "get_type_hints", "is_typeddict", "no_type_check", "no_type_check_decorator", "overload",
   "reveal_type", "runtime_checkable"]

/-- The names of the typing module for classes that live elsewhere. -/
def typingImports : List (String × String × String) :=
  [("ABCMeta", "abc", "ABCMeta"), ("GenericAlias", "types", "GenericAlias"),
   ("MethodDescriptorType", "builtins", "method_descriptor"),
   ("MethodWrapperType", "builtins", "method-wrapper"), ("Text", "builtins", "str"),
   ("WrapperDescriptorType", "builtins", "wrapper_descriptor"),
   ("defaultdict", "collections", "defaultdict")]

def collectionsClasses : List String :=
  ["ChainMap", "Counter", "OrderedDict", "UserDict", "UserList", "UserString", "defaultdict",
   "deque"]

def abstractClasses : List String :=
  ["AsyncGenerator", "AsyncIterable", "AsyncIterator", "Awaitable", "ByteString", "Callable",
   "Collection", "Container", "Coroutine", "Generator", "Hashable", "ItemsView", "Iterable",
   "Iterator", "KeysView", "Mapping", "MappingView", "MutableMapping", "MutableSequence",
   "MutableSet", "Reversible", "Sequence", "Set", "Sized", "ValuesView"]

def typesClasses : List String :=
  ["DynamicClassAttribute", "GenericAlias", "SimpleNamespace", "UnionType"]

/-- The names of the module `types` for classes of the builtin module. -/
def typesBuiltins : List (String × String × String) :=
  [("AsyncGeneratorType", "builtins", "async_generator"),
   ("BuiltinFunctionType", "builtins", "builtin_function_or_method"),
   ("BuiltinMethodType", "builtins", "builtin_function_or_method"),
   ("CellType", "builtins", "cell"),
   ("ClassMethodDescriptorType", "builtins", "classmethod_descriptor"),
   ("CodeType", "builtins", "code"), ("CoroutineType", "builtins", "coroutine"),
   ("EllipsisType", "builtins", "ellipsis"), ("FrameType", "builtins", "frame"),
   ("FunctionType", "builtins", "function"), ("GeneratorType", "builtins", "generator"),
   ("GetSetDescriptorType", "builtins", "getset_descriptor"),
   ("LambdaType", "builtins", "function"), ("MappingProxyType", "builtins", "mappingproxy"),
   ("MemberDescriptorType", "builtins", "member_descriptor"),
   ("MethodDescriptorType", "builtins", "method_descriptor"),
   ("MethodType", "builtins", "method"), ("MethodWrapperType", "builtins", "method-wrapper"),
   ("ModuleType", "builtins", "module"), ("NoneType", "builtins", "NoneType"),
   ("NotImplementedType", "builtins", "NotImplementedType"),
   ("TracebackType", "builtins", "traceback"),
   ("WrapperDescriptorType", "builtins", "wrapper_descriptor")]

def typesFunctions : List String :=
  ["coroutine", "new_class", "prepare_class", "resolve_bases"]

def patternClasses : List String :=
  ["Match", "Pattern", "RegexFlag", "Scanner", "error"]

def patternFunctions : List String :=
  ["compile", "escape", "findall", "finditer", "fullmatch", "match", "purge", "search", "split",
   "sub", "subn", "template"]

def contextClasses : List String :=
  ["AbstractAsyncContextManager", "AbstractContextManager", "AsyncContextDecorator",
   "AsyncExitStack", "ContextDecorator", "ExitStack", "aclosing", "chdir", "closing",
   "nullcontext", "redirect_stderr", "redirect_stdout", "suppress"]

def contextFunctions : List String :=
  ["asynccontextmanager", "contextmanager", "wraps"]

def moduleNames : List String :=
  ["builtins", "typing", "collections", "collections.abc", "types", "re", "contextlib"]

/-- The abstract classes that are at home in other modules than that of the abstract collections. -/
def furtherAbstractClasses : List (String × String) :=
  [("collections", "ChainMap"), ("collections", "UserDict"), ("collections", "UserList"),
   ("collections", "UserString"), ("contextlib", "AbstractAsyncContextManager"),
   ("contextlib", "AbstractContextManager"), ("contextlib", "AsyncExitStack"),
   ("contextlib", "ExitStack"), ("contextlib", "aclosing"), ("contextlib", "chdir"),
   ("contextlib", "closing"), ("contextlib", "nullcontext"), ("contextlib", "redirect_stderr"),
   ("contextlib", "redirect_stdout"), ("contextlib", "suppress")]

def protocolClasses : List String :=
  ["SupportsAbs", "SupportsBytes", "SupportsComplex", "SupportsFloat", "SupportsIndex",
   "SupportsInt", "SupportsRound"]

def exceptionBases : List (String × String) :=
  [("ArithmeticError", "Exception"), ("AssertionError", "Exception"),
   ("AttributeError", "Exception"), ("BaseException", "object"),
   ("BaseExceptionGroup", "BaseException"), ("BlockingIOError", "OSError"),
   ("BrokenPipeError", "ConnectionError"), ("BufferError", "Exception"),
   ("BytesWarning", "Warning"), ("ChildProcessError", "OSError"),
   ("ConnectionAbortedError", "ConnectionError"), ("ConnectionError", "OSError"),
   ("ConnectionRefusedError", "ConnectionError"), ("ConnectionResetError", "ConnectionError"),
   ("DeprecationWarning", "Warning"), ("EOFError", "Exception"), ("EncodingWarning", "Warning"),
   ("Exception", "BaseException"), ("ExceptionGroup", "BaseExceptionGroup"),
   ("FileExistsError", "OSError"), ("FileNotFoundError", "OSError"),
   ("FloatingPointError", "ArithmeticError"), ("FutureWarning", "Warning"),
   ("GeneratorExit", "BaseException"), ("ImportError", "Exception"),
   ("ImportWarning", "Warning"), ("IndentationError", "SyntaxError"),
   ("IndexError", "LookupError"), ("InterruptedError", "OSError"),
   ("IsADirectoryError", "OSError"), ("KeyError", "LookupError"),
   ("KeyboardInterrupt", "BaseException"), ("LookupError", "Exception"),
   ("MemoryError", "Exception"), ("ModuleNotFoundError", "ImportError"),
   ("NameError", "Exception"), ("NotADirectoryError", "OSError"),
   ("NotImplementedError", "RuntimeError"), ("OSError", "Exception"),
   ("OverflowError", "ArithmeticError"), ("PendingDeprecationWarning", "Warning"),
   ("PermissionError", "OSError"), ("ProcessLookupError", "OSError"),
   ("RecursionError", "RuntimeError"), ("ReferenceError", "Exception"),
   ("ResourceWarning", "Warning"), ("RuntimeError", "Exception"), ("RuntimeWarning", "Warning"),
   ("StopAsyncIteration", "Exception"), ("StopIteration", "Exception"),
   ("SyntaxError", "Exception"), ("SyntaxWarning", "Warning"), ("SystemError", "Exception"),
   ("SystemExit", "BaseException"), ("TabError", "IndentationError"),
   ("TimeoutError", "OSError"), ("TypeError", "Exception"), ("UnboundLocalError", "NameError"),
   ("UnicodeDecodeError", "UnicodeError"), ("UnicodeEncodeError", "UnicodeError"),
   ("UnicodeError", "ValueError"), ("UnicodeTranslateError", "UnicodeError"),
   ("UnicodeWarning", "Warning"), ("UserWarning", "Warning"), ("ValueError", "Exception"),
   ("Warning", "Exception"), ("ZeroDivisionError", "ArithmeticError")]

end Interpose.Library
