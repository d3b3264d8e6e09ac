import Interpose.World.Object

/-! # Members of builtin classes

The names that the classes of the builtin module define themselves, grouped by what they lead to.
Classes with the same members share an entry.
-/
namespace Interpose.Library

set_option autoImplicit false

/-- The own members of some classes. Those that are bound are shown with the class they belong to;
the missing ones hide what the class would inherit. -/
structure OwnMembers where
  classes : List String
  slots : List String := []
  methods : List String := []
  attributes : List String := []
  fields : List String := []
  bound : List String := []
  missing : List String := []

def ownMembers : List OwnMembers :=
  [
   { classes := ["ArithmeticError", "AssertionError", "BufferError", "BytesWarning",
                "DeprecationWarning", "EOFError", "EncodingWarning", "Exception",
                "FloatingPointError", "FutureWarning", "GeneratorExit", "ImportWarning",
                "IndexError", "KeyboardInterrupt", "LookupError", "MemoryError",
                "NotImplementedError", "OverflowError", "PendingDeprecationWarning",
                "RecursionError", "ReferenceError", "ResourceWarning", "RuntimeError",
                "RuntimeWarning", "StopAsyncIteration", "SyntaxWarning", "SystemError",
                "TypeError", "UnicodeError", "UnicodeWarning", "UserWarning", "ValueError",
                "Warning", "ZeroDivisionError"]
     slots := ["__init__"]
     bound := ["__new__"] },
   { classes := ["AttributeError"]
     slots := ["__str__", "__init__"]
     fields := ["name", "obj"] },
   { classes := ["BaseException"]
     slots := ["__repr__", "__str__", "__getattribute__", "__setattr__", "__delattr__",
               "__init__"]
     methods := ["__reduce__", "__setstate__", "with_traceback", "add_note"]
     attributes := ["__dict__", "args", "__traceback__", "__context__", "__cause__"]
     fields := ["__suppress_context__"]
     bound := ["__new__"] },
   { classes := ["BaseExceptionGroup"]
     slots := ["__str__", "__init__"]
     methods := ["derive", "split", "subgroup"]
     fields := ["message", "exceptions"]
     bound := ["__new__", "__class_getitem__"] },
   { classes := ["BlockingIOError", "BrokenPipeError", "ChildProcessError",
                "ConnectionAbortedError", "ConnectionError", "ConnectionRefusedError",
                "ConnectionResetError", "FileExistsError", "FileNotFoundError",
                "IndentationError", "InterruptedError", "IsADirectoryError",
                "ModuleNotFoundError", "NotADirectoryError", "PermissionError",
                "ProcessLookupError", "TabError", "TimeoutError", "UnboundLocalError"]
     slots := ["__init__"] },
   { classes := ["ExceptionGroup"]
     attributes := ["__weakref__"] },
   { classes := ["ImportError"]
     slots := ["__str__", "__init__"]
     methods := ["__reduce__"]
     fields := ["msg", "name", "path"] },
   { classes := ["KeyError"]
     slots := ["__str__", "__init__"] },
   { classes := ["NameError"]
     slots := ["__str__", "__init__"]
     fields := ["name"] },
   { classes := ["NoneType"]
     slots := ["__repr__", "__bool__"]
     bound := ["__new__"] },
   { classes := ["NotImplementedType"]
     slots := ["__repr__", "__bool__"]
     methods := ["__reduce__"]
     bound := ["__new__"] },
   { classes := ["OSError"]
     slots := ["__str__", "__init__"]
     methods := ["__reduce__"]
     attributes := ["characters_written"]
     fields := ["errno", "strerror", "filename", "filename2"]
     bound := ["__new__"] },
   { classes := ["StopIteration"]
     slots := ["__init__"]
     fields := ["value"] },
   { classes := ["SyntaxError"]
     slots := ["__str__", "__init__"]
     fields := ["msg", "filename", "lineno", "offset", "text", "end_lineno", "end_offset",
                "print_file_and_line"] },
   { classes := ["SystemExit"]
     slots := ["__init__"]
     fields := ["code"] },
   { classes := ["UnicodeDecodeError", "UnicodeEncodeError", "UnicodeTranslateError"]
     slots := ["__str__", "__init__"]
     fields := ["encoding", "object", "start", "end", "reason"]
     bound := ["__new__"] },
   { classes := ["async_generator"]
     slots := ["__repr__", "__getattribute__", "__del__", "__aiter__", "__anext__"]
     methods := ["asend", "athrow", "aclose", "__sizeof__"]
     attributes := ["__name__", "__qualname__", "ag_await", "ag_frame"]
     fields := ["ag_running", "ag_code"]
     bound := ["__class_getitem__"] },
   { classes := ["bool"]
     slots := ["__repr__", "__and__", "__rand__", "__xor__", "__rxor__", "__or__", "__ror__"]
     bound := ["__new__"] },
   { classes := ["builtin_function_or_method"]
     slots := ["__repr__", "__hash__", "__call__", "__getattribute__", "__lt__", "__le__",
               "__eq__", "__ne__", "__gt__", "__ge__"]
     methods := ["__reduce__"]
     attributes := ["__name__", "__qualname__", "__self__", "__text_signature__"]
     fields := ["__module__"] },
   { classes := ["bytearray"]
     slots := ["__repr__", "__str__", "__getattribute__", "__lt__", "__le__", "__eq__", "__ne__",
               "__gt__", "__ge__", "__iter__", "__init__", "__mod__", "__rmod__", "__len__",
               "__getitem__", "__setitem__", "__delitem__", "__add__", "__mul__", "__rmul__",
               "__contains__", "__iadd__", "__imul__"]
     methods := ["__alloc__", "__reduce__", "__reduce_ex__", "__sizeof__", "append", "capitalize",
                 "center", "clear", "copy", "count", "decode", "endswith", "expandtabs", "extend",
                 "find", "hex", "index", "insert", "isalnum", "isalpha", "isascii", "isdigit",
                 "islower", "isspace", "istitle", "isupper", "join", "ljust", "lower", "lstrip",
                 "partition", "pop", "remove", "replace", "removeprefix", "removesuffix",
                 "reverse", "rfind", "rindex", "rjust", "rpartition", "rsplit", "rstrip", "split",
                 "splitlines", "startswith", "strip", "swapcase", "title", "translate", "upper",
                 "zfill"]
     bound := ["__new__", "fromhex", "maketrans"]
     missing := ["__hash__"] },
   { classes := ["bytes"]
     slots := ["__repr__", "__hash__", "__str__", "__getattribute__", "__lt__", "__le__",
               "__eq__", "__ne__", "__gt__", "__ge__", "__iter__", "__mod__", "__rmod__",
               "__len__", "__getitem__", "__add__", "__mul__", "__rmul__", "__contains__"]
     methods := ["__getnewargs__", "__bytes__", "capitalize", "center", "count", "decode",
                 "endswith", "expandtabs", "find", "hex", "index", "isalnum", "isalpha",
                 "isascii", "isdigit", "islower", "isspace", "istitle", "isupper", "join",
                 "ljust", "lower", "lstrip", "partition", "replace", "removeprefix",
                 "removesuffix", "rfind", "rindex", "rjust", "rpartition", "rsplit", "rstrip",
                 "split", "splitlines", "startswith", "strip", "swapcase", "title", "translate",
                 "upper", "zfill"]
     bound := ["__new__", "fromhex", "maketrans"] },
   { classes := ["cell"]
     slots := ["__repr__", "__getattribute__", "__lt__", "__le__", "__eq__", "__ne__", "__gt__",
               "__ge__"]
     attributes := ["cell_contents"]
     bound := ["__new__"]
     missing := ["__hash__"] },
   { classes := ["classmethod"]
     slots := ["__repr__", "__get__", "__init__"]
     attributes := ["__isabstractmethod__", "__dict__"]
     fields := ["__func__", "__wrapped__"]
     bound := ["__new__"] },
   { classes := ["classmethod_descriptor"]
     slots := ["__repr__", "__call__", "__getattribute__", "__get__"]
     attributes := ["__qualname__", "__text_signature__"]
     fields := ["__objclass__", "__name__"] },
   { classes := ["code"]
     slots := ["__repr__", "__hash__", "__getattribute__", "__lt__", "__le__", "__eq__", "__ne__",
               "__gt__", "__ge__"]
     methods := ["__sizeof__", "co_lines", "co_positions", "replace", "_varname_from_oparg"]
     attributes := ["co_lnotab", "_co_code_adaptive", "co_varnames", "co_cellvars", "co_freevars",
                    "co_code"]
     fields := ["co_argcount", "co_posonlyargcount", "co_kwonlyargcount", "co_stacksize",
                "co_flags", "co_nlocals", "co_consts", "co_names", "co_filename", "co_name",
                "co_qualname", "co_firstlineno", "co_linetable", "co_exceptiontable"]
     bound := ["__new__"] },
   { classes := ["collections.OrderedDict"]
     slots := ["__repr__", "__lt__", "__le__", "__eq__", "__ne__", "__gt__", "__ge__", "__iter__",
               "__init__", "__or__", "__ror__", "__ior__", "__setitem__", "__delitem__"]
     methods := ["__sizeof__", "__reduce__", "setdefault", "pop", "popitem", "keys", "values",
                 "items", "update", "clear", "copy", "__reversed__", "move_to_end"]
     attributes := ["__dict__"]
     bound := ["fromkeys"]
     missing := ["__hash__"] },
   { classes := ["collections.defaultdict"]
     slots := ["__repr__", "__getattribute__", "__init__", "__or__", "__ror__"]
     methods := ["__missing__", "copy", "__copy__", "__reduce__"]
     fields := ["default_factory"]
     bound := ["__class_getitem__"] },
   { classes := ["collections.deque"]
     slots := ["__repr__", "__getattribute__", "__lt__", "__le__", "__eq__", "__ne__", "__gt__",
               "__ge__", "__iter__", "__init__", "__len__", "__add__", "__mul__", "__rmul__",
               "__getitem__", "__setitem__", "__delitem__", "__contains__", "__iadd__",
               "__imul__"]
     methods := ["append", "appendleft", "clear", "__copy__", "copy", "count", "extend",
                 "extendleft", "index", "insert", "pop", "popleft", "__reduce__", "remove",
                 "__reversed__", "reverse", "rotate", "__sizeof__"]
     attributes := ["maxlen"]
     bound := ["__new__", "__class_getitem__"]
     missing := ["__hash__"] },
   { classes := ["complex"]
     slots := ["__repr__", "__hash__", "__getattribute__", "__lt__", "__le__", "__eq__", "__ne__",
               "__gt__", "__ge__", "__add__", "__radd__", "__sub__", "__rsub__", "__mul__",
               "__rmul__", "__pow__", "__rpow__", "__neg__", "__pos__", "__abs__", "__bool__",
               "__truediv__", "__rtruediv__"]
     methods := ["conjugate", "__complex__", "__getnewargs__", "__format__"]
     fields := ["real", "imag"]
     bound := ["__new__"] },
   { classes := ["coroutine"]
     slots := ["__repr__", "__getattribute__", "__del__", "__await__"]
     methods := ["send", "throw", "close", "__sizeof__"]
     attributes := ["__name__", "__qualname__", "cr_await", "cr_running", "cr_frame",
                    "cr_suspended"]
     fields := ["cr_code", "cr_origin"] },
   { classes := ["dict"]
     slots := ["__repr__", "__getattribute__", "__lt__", "__le__", "__eq__", "__ne__", "__gt__",
               "__ge__", "__iter__", "__init__", "__or__", "__ror__", "__ior__", "__len__",
               "__setitem__", "__delitem__"]
     methods := ["__getitem__", "__contains__", "__sizeof__", "get", "setdefault", "pop",
                 "popitem", "keys", "items", "values", "update", "clear", "copy", "__reversed__"]
     bound := ["__new__", "fromkeys", "__class_getitem__"]
     missing := ["__hash__"] },
   { classes := ["ellipsis"]
     slots := ["__repr__", "__getattribute__"]
     methods := ["__reduce__"]
     bound := ["__new__"] },
   { classes := ["enumerate"]
     slots := ["__getattribute__", "__iter__", "__next__"]
     methods := ["__reduce__"]
     bound := ["__new__", "__class_getitem__"] },
   { classes := ["filter", "map"]
     slots := ["__getattribute__", "__iter__", "__next__"]
     methods := ["__reduce__"]
     bound := ["__new__"] },
   { classes := ["float"]
     slots := ["__repr__", "__hash__", "__getattribute__", "__lt__", "__le__", "__eq__", "__ne__",
               "__gt__", "__ge__", "__add__", "__radd__", "__sub__", "__rsub__", "__mul__",
               "__rmul__", "__mod__", "__rmod__", "__divmod__", "__rdivmod__", "__pow__",
               "__rpow__", "__neg__", "__pos__", "__abs__", "__bool__", "__int__", "__float__",
               "__floordiv__", "__rfloordiv__", "__truediv__", "__rtruediv__"]
     methods := ["conjugate", "__trunc__", "__floor__", "__ceil__", "__round__",
                 "as_integer_ratio", "hex", "is_integer", "__getnewargs__", "__format__"]
     attributes := ["real", "imag"]
     bound := ["__new__", "fromhex", "__getformat__"] },
   { classes := ["frame"]
     slots := ["__repr__", "__getattribute__", "__setattr__", "__delattr__"]
     methods := ["clear", "__sizeof__"]
     attributes := ["f_back", "f_locals", "f_lineno", "f_trace", "f_lasti", "f_globals",
                    "f_builtins", "f_code"]
     fields := ["f_trace_lines", "f_trace_opcodes"] },
   { classes := ["frozenset"]
     slots := ["__repr__", "__hash__", "__getattribute__", "__lt__", "__le__", "__eq__", "__ne__",
               "__gt__", "__ge__", "__iter__", "__sub__", "__rsub__", "__and__", "__rand__",
               "__xor__", "__rxor__", "__or__", "__ror__", "__len__"]
     methods := ["__contains__", "copy", "difference", "intersection", "isdisjoint", "issubset",
                 "issuperset", "__reduce__", "__sizeof__", "symmetric_difference", "union"]
     bound := ["__new__", "__class_getitem__"] },
   { classes := ["function"]
     slots := ["__repr__", "__call__", "__get__"]
     attributes := ["__code__", "__defaults__", "__kwdefaults__", "__annotations__", "__dict__",
                    "__name__", "__qualname__"]
     fields := ["__closure__", "__globals__", "__module__", "__builtins__"]
     bound := ["__new__"] },
   { classes := ["generator"]
     slots := ["__repr__", "__getattribute__", "__iter__", "__next__", "__del__"]
     methods := ["send", "throw", "close", "__sizeof__"]
     attributes := ["__name__", "__qualname__", "gi_yieldfrom", "gi_running", "gi_frame",
                    "gi_suspended"]
     fields := ["gi_code"] },
   { classes := ["getset_descriptor"]
     slots := ["__repr__", "__getattribute__", "__get__", "__set__", "__delete__"]
     attributes := ["__qualname__"]
     fields := ["__objclass__", "__name__"] },
   { classes := ["int"]
     slots := ["__repr__", "__hash__", "__getattribute__", "__lt__", "__le__", "__eq__", "__ne__",
               "__gt__", "__ge__", "__add__", "__radd__", "__sub__", "__rsub__", "__mul__",
               "__rmul__", "__mod__", "__rmod__", "__divmod__", "__rdivmod__", "__pow__",
               "__rpow__", "__neg__", "__pos__", "__abs__", "__bool__", "__invert__",
               "__lshift__", "__rlshift__", "__rshift__", "__rrshift__", "__and__", "__rand__",
               "__xor__", "__rxor__", "__or__", "__ror__", "__int__", "__float__", "__floordiv__",
               "__rfloordiv__", "__truediv__", "__rtruediv__", "__index__"]
     methods := ["conjugate", "bit_length", "bit_count", "to_bytes", "as_integer_ratio",
                 "__trunc__", "__floor__", "__ceil__", "__round__", "__getnewargs__",
                 "__format__", "__sizeof__"]
     attributes := ["real", "imag", "numerator", "denominator"]
     bound := ["__new__", "from_bytes"] },
   { classes := ["list"]
     slots := ["__repr__", "__getattribute__", "__lt__", "__le__", "__eq__", "__ne__", "__gt__",
               "__ge__", "__iter__", "__init__", "__len__", "__setitem__", "__delitem__",
               "__add__", "__mul__", "__rmul__", "__contains__", "__iadd__", "__imul__"]
     methods := ["__getitem__", "__reversed__", "__sizeof__", "clear", "copy", "append", "insert",
                 "extend", "pop", "remove", "index", "count", "reverse", "sort"]
     bound := ["__new__", "__class_getitem__"]
     missing := ["__hash__"] },
   { classes := ["mappingproxy"]
     slots := ["__repr__", "__str__", "__getattribute__", "__lt__", "__le__", "__eq__", "__ne__",
               "__gt__", "__ge__", "__iter__", "__or__", "__ror__", "__ior__", "__len__",
               "__getitem__", "__contains__"]
     methods := ["get", "keys", "values", "items", "copy", "__reversed__"]
     bound := ["__new__", "__class_getitem__"]
     missing := ["__hash__"] },
   { classes := ["member_descriptor"]
     slots := ["__repr__", "__getattribute__", "__get__", "__set__", "__delete__"]
     methods := ["__reduce__"]
     attributes := ["__qualname__"]
     fields := ["__objclass__", "__name__"] },
   { classes := ["memoryview"]
     slots := ["__repr__", "__hash__", "__getattribute__", "__lt__", "__le__", "__eq__", "__ne__",
               "__gt__", "__ge__", "__iter__", "__len__", "__getitem__", "__setitem__",
               "__delitem__"]
     methods := ["release", "tobytes", "hex", "tolist", "cast", "toreadonly", "__enter__",
                 "__exit__"]
     attributes := ["obj", "nbytes", "readonly", "itemsize", "format", "ndim", "shape", "strides",
                    "suboffsets", "c_contiguous", "f_contiguous", "contiguous"]
     bound := ["__new__"] },
   { classes := ["method"]
     slots := ["__repr__", "__hash__", "__call__", "__getattribute__", "__setattr__",
               "__delattr__", "__lt__", "__le__", "__eq__", "__ne__", "__gt__", "__ge__"]
     methods := ["__reduce__"]
     fields := ["__func__", "__self__"]
     bound := ["__new__"] },
   { classes := ["method-wrapper"]
     slots := ["__repr__", "__hash__", "__call__", "__getattribute__", "__lt__", "__le__",
               "__eq__", "__ne__", "__gt__", "__ge__"]
     methods := ["__reduce__"]
     attributes := ["__objclass__", "__name__", "__qualname__", "__text_signature__"]
     fields := ["__self__"] },
   { classes := ["method_descriptor", "wrapper_descriptor"]
     slots := ["__repr__", "__call__", "__getattribute__", "__get__"]
     methods := ["__reduce__"]
     attributes := ["__qualname__", "__text_signature__"]
     fields := ["__objclass__", "__name__"] },
   { classes := ["module"]
     slots := ["__repr__", "__getattribute__", "__setattr__", "__delattr__", "__init__"]
     methods := ["__dir__"]
     attributes := ["__annotations__"]
     fields := ["__dict__"]
     bound := ["__new__"] },
   { classes := ["object"]
     slots := ["__repr__", "__hash__", "__str__", "__getattribute__", "__setattr__",
               "__delattr__", "__lt__", "__le__", "__eq__", "__ne__", "__gt__", "__ge__",
               "__init__"]
     methods := ["__reduce_ex__", "__reduce__", "__getstate__", "__format__", "__sizeof__",
                 "__dir__"]
     attributes := ["__class__"]
     bound := ["__new__", "__subclasshook__", "__init_subclass__"] },
   { classes := ["property"]
     slots := ["__getattribute__", "__get__", "__set__", "__delete__", "__init__"]
     methods := ["getter", "setter", "deleter", "__set_name__"]
     attributes := ["__isabstractmethod__"]
     fields := ["fget", "fset", "fdel"]
     bound := ["__new__"] },
   { classes := ["range"]
     slots := ["__repr__", "__hash__", "__getattribute__", "__lt__", "__le__", "__eq__", "__ne__",
               "__gt__", "__ge__", "__iter__", "__bool__", "__len__", "__getitem__",
               "__contains__"]
     methods := ["__reversed__", "__reduce__", "count", "index"]
     fields := ["start", "stop", "step"]
     bound := ["__new__"] },
   { classes := ["reversed"]
     slots := ["__getattribute__", "__iter__", "__next__"]
     methods := ["__length_hint__", "__reduce__", "__setstate__"]
     bound := ["__new__"] },
   { classes := ["set"]
     slots := ["__repr__", "__getattribute__", "__lt__", "__le__", "__eq__", "__ne__", "__gt__",
               "__ge__", "__iter__", "__init__", "__sub__", "__rsub__", "__and__", "__rand__",
               "__xor__", "__rxor__", "__or__", "__ror__", "__isub__", "__iand__", "__ixor__",
               "__ior__", "__len__"]
     methods := ["__contains__", "add", "clear", "copy", "discard", "difference",
                 "difference_update", "intersection", "intersection_update", "isdisjoint",
                 "issubset", "issuperset", "pop", "__reduce__", "remove", "__sizeof__",
                 "symmetric_difference", "symmetric_difference_update", "union", "update"]
     bound := ["__new__", "__class_getitem__"]
     missing := ["__hash__"] },
   { classes := ["slice"]
     slots := ["__repr__", "__getattribute__", "__lt__", "__le__", "__eq__", "__ne__", "__gt__",
               "__ge__"]
     methods := ["indices", "__reduce__"]
     fields := ["start", "stop", "step"]
     bound := ["__new__"]
     missing := ["__hash__"] },
   { classes := ["staticmethod"]
     slots := ["__repr__", "__call__", "__get__", "__init__"]
     attributes := ["__isabstractmethod__", "__dict__"]
     fields := ["__func__", "__wrapped__"]
     bound := ["__new__"] },
   { classes := ["str"]
     slots := ["__repr__", "__hash__", "__str__", "__getattribute__", "__lt__", "__le__",
               "__eq__", "__ne__", "__gt__", "__ge__", "__iter__", "__mod__", "__rmod__",
               "__len__", "__getitem__", "__add__", "__mul__", "__rmul__", "__contains__"]
     methods := ["encode", "replace", "split", "rsplit", "join", "capitalize", "casefold",
                 "title", "center", "count", "expandtabs", "find", "partition", "index", "ljust",
                 "lower", "lstrip", "rfind", "rindex", "rjust", "rstrip", "rpartition",
                 "splitlines", "strip", "swapcase", "translate", "upper", "startswith",
                 "endswith", "removeprefix", "removesuffix", "isascii", "islower", "isupper",
                 "istitle", "isspace", "isdecimal", "isdigit", "isnumeric", "isalpha", "isalnum",
                 "isidentifier", "isprintable", "zfill", "format", "format_map", "__format__",
                 "__sizeof__", "__getnewargs__"]
     bound := ["__new__", "maketrans"] },
   { classes := ["super"]
     slots := ["__repr__", "__getattribute__", "__get__", "__init__"]
     fields := ["__thisclass__", "__self__", "__self_class__"]
     bound := ["__new__"] },
   { classes := ["traceback"]
     slots := ["__getattribute__"]
     methods := ["__dir__"]
     attributes := ["tb_next", "tb_lineno"]
     fields := ["tb_frame", "tb_lasti"]
     bound := ["__new__"] },
   { classes := ["tuple"]
     slots := ["__repr__", "__hash__", "__getattribute__", "__lt__", "__le__", "__eq__", "__ne__",
               "__gt__", "__ge__", "__iter__", "__len__", "__getitem__", "__add__", "__mul__",
               "__rmul__", "__contains__"]
     methods := ["__getnewargs__", "index", "count"]
     bound := ["__new__", "__class_getitem__"] },
   { classes := ["type"]
     slots := ["__repr__", "__call__", "__getattribute__", "__setattr__", "__delattr__",
               "__init__", "__or__", "__ror__"]
     methods := ["mro", "__subclasses__", "__instancecheck__", "__subclasscheck__", "__dir__",
                 "__sizeof__"]
     attributes := ["__name__", "__qualname__", "__bases__", "__module__", "__abstractmethods__",
                    "__dict__", "__text_signature__", "__annotations__"]
     fields := ["__basicsize__", "__itemsize__", "__flags__", "__weakrefoffset__", "__base__",
                "__dictoffset__", "__mro__"]
     bound := ["__new__", "__prepare__"] },
   { classes := ["zip"]
     slots := ["__getattribute__", "__iter__", "__next__"]
     methods := ["__reduce__", "__setstate__"]
     bound := ["__new__"] }]

def OwnMembers.find? (members : OwnMembers) (owner name : String) : Option Object :=
  let routine (kind : RoutineKind) : Option Object := some (.routine ⟨kind, owner, name⟩)
  if members.slots.contains name then routine .slot
  else if members.methods.contains name then routine .method
  else if members.attributes.contains name then routine .attribute
  else if members.fields.contains name then routine .field
  else if members.bound.contains name then routine .bound
  else if members.missing.contains name then some .none
  else none

def ownMember? (owner name : String) : Option Object :=
  (ownMembers.find? fun members => members.classes.contains owner).bind
    (OwnMembers.find? · owner name)

end Interpose.Library
