/-!
# The script of the page

What runs inside the page: the component factory with its behaviours, the error panel, and the calls
that install capabilities, compile, instantiate and mount a snippet.  The studio passes it on as it
stands.
-/

namespace SnippetStudio.Page

/-- the element that snippets are mounted on -/
def mountId : String := "preview-root"

def script : String := r#"
(function () {
  const h = React.createElement;
  const caps = { components: null, icons: null, cn: null, mockData: null };
  const state = { root: null, pending: null, hasPending: false };

  function describe(err) {
    if (err === null || err === undefined) {
      return { name: 'Error', message: String(err), stack: null, loc: null };
    }
    const name = (err && err.name) ? String(err.name) : 'Error';
    const message = (err && err.message !== undefined) ? String(err.message) : String(err);
    const loc = (err && err.loc && typeof err.loc.line === 'number')
      ? { line: err.loc.line, column: err.loc.column }
      : null;
    return { name: name, message: message, stack: err && err.stack ? String(err.stack) : null, loc: loc };
  }

  // Set by the module script once clsx and tailwind-merge have loaded
  const classNames = { clsx: null, twMerge: null };

  function cn() {
    return classNames.twMerge(classNames.clsx(Array.prototype.slice.call(arguments)));
  }

  const TabsContext = React.createContext(null);
  const SelectContext = React.createContext(null);

  function buildProps(spec, props, ref) {
    const out = {};
    Object.keys(spec.attrs).forEach(function (k) { out[k] = spec.attrs[k]; });
    Object.keys(props).forEach(function (k) {
      if (k === 'children' || k === 'className') return;
      if (spec.omit.indexOf(k) !== -1) return;
      if (spec.defaultVariant !== null && k === 'variant') return;
      if (spec.defaultSize !== null && k === 'size') return;
      const target = spec.rename[k] || k;
      out[target] = props[k];
    });
    const variant = spec.defaultVariant !== null
      ? spec.variants[props.variant || spec.defaultVariant] || spec.variants[spec.defaultVariant]
      : null;
    const size = spec.defaultSize !== null
      ? spec.sizes[props.size || spec.defaultSize] || spec.sizes[spec.defaultSize]
      : null;
    out.className = cn(spec.className, variant, size, props.className) || undefined;
    out.ref = ref;
    return out;
  }

  const behaviors = {
    'tabs-root': function (spec, props, ref) {
      const controlled = props.value !== undefined;
      const [active, setActive] = React.useState(props.defaultValue);
      const current = controlled ? props.value : active;
      const select = function (value) {
        if (!controlled) setActive(value);
        if (props.onValueChange) props.onValueChange(value);
      };
      const rest = Object.assign({}, props);
      delete rest.value; delete rest.defaultValue; delete rest.onValueChange;
      return h(TabsContext.Provider, { value: { current: current, select: select } },
        h(spec.tag, buildProps(spec, rest, ref), props.children));
    },
    'tabs-trigger': function (spec, props, ref) {
      const ctx = React.useContext(TabsContext);
      const isActive = !!ctx && ctx.current === props.value;
      const out = buildProps(spec, props, ref);
      out['data-state'] = isActive ? 'active' : 'inactive';
      out['aria-selected'] = isActive;
      const onClick = props.onClick;
      out.onClick = function (event) {
        if (ctx) ctx.select(props.value);
        if (onClick) onClick(event);
      };
      return h(spec.tag, out, props.children);
    },
    'tabs-content': function (spec, props, ref) {
      const ctx = React.useContext(TabsContext);
      if (!ctx || ctx.current !== props.value) return null;
      const out = buildProps(spec, props, ref);
      out['data-state'] = 'active';
      return h(spec.tag, out, props.children);
    },
    'checkbox': function (spec, props, ref) {
      const rest = Object.assign({}, props);
      delete rest.checked; delete rest.onCheckedChange; delete rest.onChange;
      const out = buildProps(spec, rest, ref);
      if (props.checked !== undefined) out.checked = !!props.checked;
      out.onChange = function (event) {
        if (props.onChange) props.onChange(event);
        if (props.onCheckedChange) props.onCheckedChange(event.target.checked);
      };
      return h(spec.tag, out);
    },
    'select-root': function (spec, props, ref) {
      const controlled = props.value !== undefined;
      const [chosen, setChosen] = React.useState(props.defaultValue);
      const [label, setLabel] = React.useState(null);
      const [open, setOpen] = React.useState(false);
      const current = controlled ? props.value : chosen;
      const select = function (value, text) {
        if (!controlled) setChosen(value);
        setLabel({ value: value, text: text });
        setOpen(false);
        if (props.onValueChange) props.onValueChange(value);
      };
      const rest = Object.assign({}, props);
      delete rest.value; delete rest.defaultValue; delete rest.onValueChange;
      const out = buildProps(spec, rest, ref);
      out.open = open;
      out.onToggle = function (event) { setOpen(event.currentTarget.open); };
      return h(SelectContext.Provider, { value: { current: current, label: label, select: select } },
        h(spec.tag, out, props.children));
    },
    'select-value': function (spec, props, ref) {
      const ctx = React.useContext(SelectContext);
      const current = ctx ? ctx.current : undefined;
      let shown = props.placeholder;
      if (current !== undefined && current !== null && current !== '') {
        shown = ctx.label && ctx.label.value === current ? ctx.label.text : current;
      }
      return h(spec.tag, buildProps(spec, props, ref), props.children !== undefined ? props.children : shown);
    },
    'select-item': function (spec, props, ref) {
      const ctx = React.useContext(SelectContext);
      const selected = !!ctx && ctx.current === props.value;
      const out = buildProps(spec, props, ref);
      out['data-state'] = selected ? 'checked' : 'unchecked';
      out['aria-selected'] = selected;
      const onClick = props.onClick;
      out.onClick = function (event) {
        if (ctx && !props.disabled) ctx.select(props.value, props.children);
        if (onClick) onClick(event);
      };
      return h(spec.tag, out, props.children);
    },
  };

  function makeComponent(spec) {
    const behavior = spec.behavior ? behaviors[spec.behavior] : null;
    const Component = React.forwardRef(function (props, ref) {
      if (behavior) return behavior(spec, props, ref);
      return h(spec.tag, buildProps(spec, props, ref), props.children);
    });
    Component.displayName = spec.name;
    return Component;
  }

  function ErrorPanel(props) {
    return h('div', { className: 'p-4 text-red-500', role: 'alert', 'data-preview-error': props.stage },
      h('p', { className: 'font-bold' }, 'Error in preview:'),
      h('pre', { className: 'mt-2 text-sm overflow-auto whitespace-pre-wrap' }, props.message),
      h('p', { className: 'mt-4 text-sm' }, 'Fix the error in the editor to update the preview.'));
  }

  class Boundary extends React.Component {
    constructor(props) {
      super(props);
      this.state = { error: null, element: props.element };
    }
    static getDerivedStateFromProps(props, current) {
      return props.element !== current.element ? { error: null, element: props.element } : null;
    }
    static getDerivedStateFromError(error) {
      return { error: error };
    }
    componentDidCatch(error) {
      this.props.onError(error);
    }
    render() {
      if (this.state.error !== null) {
        return h(ErrorPanel, { stage: 'render', message: describe(this.state.error).message });
      }
      return this.props.element === undefined ? null : this.props.element;
    }
  }

  function container() {
    return document.getElementById('preview-root');
  }

  window.__preview = {
    install: function (payload) {
      if (typeof window.LucideReact === 'undefined') throw new Error('lucide-react did not load');
      const components = {};
      payload.components.forEach(function (spec) { components[spec.name] = makeComponent(spec); });
      caps.components = Object.freeze(components);
      caps.icons = window.LucideReact;
      caps.cn = cn;
      caps.mockData = payload.mockData;
      return Object.keys(components).sort();
    },

    useClassNames: function (clsx, twMerge) {
      classNames.clsx = clsx;
      classNames.twMerge = twMerge;
    },

    missingDependencies: function () {
      const missing = [];
      if (typeof window.Babel === 'undefined' || typeof window.Babel.transform !== 'function') missing.push('babel');
      if (classNames.twMerge === null) missing.push('tailwind-merge');
      return missing;
    },

    loadCompiler: function (src) {
      if (document.getElementById('preview-compiler')) return false;
      const script = document.createElement('script');
      script.id = 'preview-compiler';
      script.src = src;
      script.async = true;
      document.body.appendChild(script);
      return true;
    },

    compilerReady: function () {
      return window.__preview.missingDependencies().length === 0;
    },

    createRoot: function () {
      if (state.root !== null) return false;
      state.root = ReactDOM.createRoot(container());
      return true;
    },

    transform: function (text) {
      try {
        const result = window.Babel.transform(text, {
          presets: ['react', ['typescript', { isTSX: true, allExtensions: true }]],
          filename: 'preview.tsx',
        });
        return { ok: true, code: result.code };
      } catch (err) {
        return { ok: false, error: describe(err) };
      }
    },

    instantiate: function (code) {
      state.pending = null;
      state.hasPending = false;
      try {
        const body = 'return (\n' + String(code).trim().replace(/;+$/, '') + '\n);';
        const factory = new Function('React', 'ShadcnUI', 'LucideIcons', 'cn', 'mockData', body);
        state.pending = factory(React, caps.components, caps.icons, caps.cn, caps.mockData);
        state.hasPending = true;
        return { ok: true };
      } catch (err) {
        return { ok: false, error: describe(err) };
      }
    },

    mount: function () {
      if (!state.hasPending) {
        return { ok: false, error: { name: 'Error', message: 'Nothing to mount', stack: null, loc: null } };
      }
      const element = state.pending;
      state.pending = null;
      state.hasPending = false;
      let failure = null;
      const onError = function (err) { if (failure === null) failure = err; };
      try {
        ReactDOM.flushSync(function () {
          state.root.render(h(Boundary, { element: element, onError: onError }));
        });
      } catch (err) {
        if (failure === null) failure = err;
      }
      if (failure !== null) return { ok: false, error: describe(failure) };
      return { ok: true, html: container().innerHTML };
    },

    showError: function (stage, message) {
      try {
        ReactDOM.flushSync(function () {
          state.root.render(h(ErrorPanel, { stage: stage, message: message }));
        });
        return true;
      } catch (err) {
        container().textContent = 'Error in preview: ' + message;
        return false;
      }
    },

    html: function () {
      return container().innerHTML;
    },
  };
})();
"#

end SnippetStudio.Page
